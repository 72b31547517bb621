import Storefront.Proofs.Batch.EndState
import Storefront.Proofs.Batch.Reopen
import Storefront.Proofs.Files.ReadBack

/-! Written pictures keep every pixel: a picture with pixels has a file, which reads back as that
picture, and the file of a normalized picture stands where it was to be written. -/

namespace Storefront

variable {r : Raster Color} {file : ByteArray} {n : Normalized} {c : Canvas} {src dst : Path}

/-- The colors are bytes of one array in memory, which has fewer than 2^63 of them. -/
def Raster.Addressable (r : Raster Color) : Prop :=
  r.size.area * 3 < Png.addressable

/-- The file is a PNG of eight bits a channel, three channels, not interlaced, and the picture is
read from it by every reader that has room for it. -/
structure HoldsPicture (file : ByteArray) (r : Raster Color) : Prop where
  decoded : ∃ h, Png.decode file.data.toList = .ok (h, .rgb8 r) ∧ h.size = r.size ∧
    h.depth = .eight ∧ h.color = .rgb ∧ h.interlaced = false
  within : ∀ room, r.size.area * 3 ≤ room →
    ∃ h, Png.decodeWithin (some room) file.data.toList = .ok (h, .rgb8 r)

theorem holdsPicture_of_encode (hr : r.Addressable) (h : Png.encode r = .ok file) :
    HoldsPicture file r where
  decoded := by
    have hdecode : Png.decode file.data.toList = .ok (.plain r.size, .rgb8 r) :=
      Png.decodeWithin_encode h (by simp) hr
    exact ⟨.plain r.size, hdecode, rfl, rfl, rfl, rfl⟩
  within room hroom := ⟨.plain r.size, Png.decodeWithin_encode h (by simpa using hroom) hr⟩

theorem pngFile_cases (r : Raster Color) :
    (r.size.isEmpty = true ∧ ∃ e, pngFile r = .error (.encode e)) ∨
      (r.size.isEmpty = false ∧ ∃ file, pngFile r = .ok file ∧ Png.encode r = .ok file) := by
  rw [pngFile, Png.encode]
  by_cases hwidth : r.size.width = 0
  · rw [if_pos hwidth]
    exact .inl ⟨Dimensions.isEmpty_iff.2 (.inl hwidth), .zeroWidth, rfl⟩
  by_cases hheight : r.size.height = 0
  · rw [if_neg hwidth, if_pos hheight]
    exact .inl ⟨Dimensions.isEmpty_iff.2 (.inr hheight), .zeroHeight, rfl⟩
  rw [if_neg hwidth, if_neg hheight]
  refine .inr ⟨?_, Png.pack (Png.fileParts r), rfl, rfl⟩
  rw [Bool.eq_false_iff]
  intro hempty
  exact (Dimensions.isEmpty_iff.1 hempty).elim hwidth hheight

theorem exists_pngFile (h : r.size.isEmpty = false) :
    ∃ file, pngFile r = .ok file ∧ Png.encode r = .ok file := by
  obtain ⟨hempty, -⟩ | ⟨-, hfile⟩ := pngFile_cases r
  · rw [h] at hempty
    contradiction
  · exact hfile

section

variable [Codecs]

theorem FileTree.putPicture_eq_ok {t t' : FileTree} (h : t.putPicture c src dst = (.ok n, t')) :
    ∃ file, Png.encode n.image = .ok file ∧ t.write dst file = .ok t' := by
  unfold putPicture at h
  rcases hprepare : preparePicture c src (t.read src) with e | ⟨n', file⟩
  · simp [hprepare] at h
  · rcases hwrite : t.write dst file with e | t''
    · simp [hprepare, hwrite] at h
    · simp only [hprepare, hwrite, Prod.mk.injEq, Except.ok.injEq] at h
      obtain ⟨rfl, rfl⟩ := h
      obtain ⟨-, -, -, -, -, hencode⟩ := content_of_preparePicture hprepare
      exact ⟨file, hencode, hwrite⟩

theorem putPicture_of_normalizeFile {filter : Log.Filter} {s s' : Session}
    (h : (normalizeFile (Session.host filter) c src dst).run s = (.ok n, s')) :
    s.tree.putPicture c src dst = (.ok n, s'.tree) := by
  obtain ⟨hresult, htree⟩ := Session.yields_normalizeFile filter s c src dst
  rw [h] at hresult htree
  exact Prod.ext hresult.symm htree.symm

/-- A picture has a file unless one of its sides is zero, and its file holds it. A picture that was
normalized from one file into another is held by that other file. -/
theorem holdsPicture_pngFile :
    (∀ r : Raster Color, (∃ e, pngFile r = .error e) ↔ r.size.isEmpty = true) ∧
    (∀ (r : Raster Color) e, pngFile r = .error e → ∃ fault, e = .encode fault) ∧
    (∀ r : Raster Color, r.Addressable → r.size.isEmpty = false →
      ∃ file, pngFile r = .ok file ∧ HoldsPicture file r) ∧
    ∀ (filter : Log.Filter) (c : Canvas) (src dst : Path) (s s' : Session) (n : Normalized),
      s.tree.WellFormed → s.tree.IsDirectoryAt s.tree.workDir →
      (normalizeFile (Session.host filter) c src dst).run s = (.ok n, s') → n.image.Addressable →
      ∃ file, s.tree.write dst file = .ok s'.tree ∧ s'.tree.read dst = .ok file ∧
        HoldsPicture file n.image := by
  refine ⟨?_, ?_, ?_, ?_⟩
  · intro r
    obtain ⟨hr, e, hfile⟩ | ⟨hr, file, hfile, -⟩ := pngFile_cases r
    · exact iff_of_true ⟨_, hfile⟩ hr
    · rw [hfile, hr]
      simp
  · intro r e h
    obtain ⟨-, fault, hfile⟩ | ⟨-, file, hfile, -⟩ := pngFile_cases r
    · exact ⟨fault, Except.error.inj (h.symm.trans hfile)⟩
    · rw [hfile] at h
      contradiction
  · intro r hr hsize
    obtain ⟨hempty, -⟩ | ⟨-, file, hfile, hencode⟩ := pngFile_cases r
    · rw [hsize] at hempty
      contradiction
    · exact ⟨file, hfile, holdsPicture_of_encode hr hencode⟩
  · intro filter c src dst s s' n hwf hdir hrun hn
    obtain ⟨file, hencode, hwrite⟩ := FileTree.putPicture_eq_ok (putPicture_of_normalizeFile hrun)
    exact ⟨file, hwrite, FileTree.read_of_write hwf hdir hwrite, holdsPicture_of_encode hn hencode⟩

end

namespace FileTree

def linkedPictures : FileTree :=
  twoPictures.put ["c.png", "work"] (.link "out/a.png")

theorem wellFormed_linkedPictures : linkedPictures.WellFormed := by
  have hname : IsEntryName "c.png" := by simp [IsEntryName]
  exact wellFormed_twoPictures.put hname rfl (fun h => by contradiction)

end FileTree

theorem holdsPicture_linkedPictures :
    (∃ e, pngFile (.ofFn ⟨0, 3⟩ fun _ _ => Color.white) = .error e) ∧
    (∃ file, pngFile (.ofFn ⟨1, 3⟩ fun _ _ => Color.white) = .ok file ∧
      HoldsPicture file (.ofFn ⟨1, 3⟩ fun _ _ => Color.white)) ∧
    ∃ n s' file, (normalizeFile (Session.host []) ⟨⟨2, 1⟩, Color.white⟩ ⟨"in/a.png"⟩ ⟨"c.png"⟩).run
      (Session.start FileTree.linkedPictures) = (.ok n, s') ∧
      s'.tree.read ⟨"c.png"⟩ = .ok file ∧ HoldsPicture file n.image := by
  obtain ⟨hempty, -, hwritten, hnormalized⟩ := holdsPicture_pngFile
  refine ⟨(hempty _).2 rfl, hwritten _ (show 1 * 3 * 3 < 1 <<< 63 by decide) rfl, ?_⟩
  have hsize : ((normalizeFile (Session.host []) ⟨⟨2, 1⟩, Color.white⟩ ⟨"in/a.png"⟩ ⟨"c.png"⟩).run
      (Session.start FileTree.linkedPictures)).1.map (·.image.size) = .ok ⟨2, 1⟩ := by
    decide +kernel
  rcases hrun : (normalizeFile (Session.host []) ⟨⟨2, 1⟩, Color.white⟩ ⟨"in/a.png"⟩
      ⟨"c.png"⟩).run (Session.start FileTree.linkedPictures) with ⟨e | n, s'⟩
  · rw [hrun] at hsize
    contradiction
  · rw [hrun] at hsize
    have himage : n.image.size = ⟨2, 1⟩ := Except.ok.inj hsize
    have haddressable : n.image.Addressable := by
      rw [Raster.Addressable, himage]
      decide
    obtain ⟨file, -, hread, hholds⟩ := hnormalized [] _ _ _ (Session.start FileTree.linkedPictures)
      s' n FileTree.wellFormed_linkedPictures rfl hrun haddressable
    exact ⟨n, s', file, rfl, hread, hholds⟩

end Storefront
