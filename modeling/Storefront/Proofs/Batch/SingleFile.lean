import Storefront.Proofs.Batch.Causes
import Storefront.Proofs.Files.Writing

/-! One picture from file to file: the destination holds all of the new picture, or every file is as it
was before. -/

namespace Storefront

open FileTree

variable {c : Canvas} {src dst : Path} {t t' : FileTree} {e : ImageError} {n : Normalized}

theorem exists_pngFile_normalize {p : Picture} (h : p.normalize c = .ok n) :
    ∃ file, pngFile n.image = .ok file := by
  obtain ⟨hsize, htarget⟩ := Picture.size_normalize h
  obtain ⟨file, hfile, -⟩ := exists_pngFile (hsize.symm ▸ htarget)
  exact ⟨file, hfile⟩

namespace FileTree

theorem write_error_congr {p : Path} {content : ByteArray} {fault : FileError}
    (h : t.write p content = .error fault) (other : ByteArray) : t.write p other = .error fault :=
  write_eq_error_iff.2 (write_eq_error_iff.1 h)

/-- The file stands where the path leads to, and nothing else has changed. -/
structure HasWritten (t t' : FileTree) (p : Path) (file : ByteArray) : Prop where
  place : ∃ k, t.target? p = some k ∧ t.IsOpenAt k ∧ t'.node? k = some (.file file) ∧
    ∀ l, l ≠ k → t'.node? l = t.node? l
  workDir : t'.workDir = t.workDir
  readBack : t.WellFormed → t.IsDirectoryAt t.workDir → t'.read p = .ok file

theorem hasWritten_of_write {p : Path} {file : ByteArray} (h : t.write p file = .ok t') :
    t.HasWritten t' p file := by
  have hread (hwf : t.WellFormed) (hdir : t.IsDirectoryAt t.workDir) := read_of_write hwf hdir h
  obtain ⟨place, hloc, hopen, rfl⟩ := write_cases h
  have htarget : t.target? p = some place.location := by
    rw [target?, hloc]
    cases place <;> rfl
  exact ⟨⟨place.location, htarget, hopen, hopen.node?_put, fun l hl => hopen.node?_put_of_ne hl⟩,
    rfl, hread⟩

end FileTree

section

variable [Codecs]

/-- Why a picture does not come from its file into another one. -/
inductive FileTree.Fails (t : FileTree) (c : Canvas) (src dst : Path) : ImageError → Prop
  | unread {fault} (hopen : openPicture src (t.read src) = .error fault) :
    Fails t c src dst (.decode fault)
  | noPixels {p} (hopen : openPicture src (t.read src) = .ok p) (hp : p.size.isEmpty = true) :
    Fails t c src dst (.invalidDimensions p.size)
  | noCanvas {p} (hopen : openPicture src (t.read src) = .ok p) (hp : p.size.isEmpty = false)
    (hc : c.target.isEmpty = true) : Fails t c src dst (.invalidDimensions c.target)
  | unwritten {p fault} (hopen : openPicture src (t.read src) = .ok p)
    (hp : p.size.isEmpty = false) (hc : c.target.isEmpty = false)
    (hwrite : ∀ content, t.write dst content = .error fault) : Fails t c src dst (.io fault)

namespace FileTree

theorem Fails.putPicture_eq (h : t.Fails c src dst e) :
    t.putPicture c src dst = (.error e, t) := by
  cases h with
  | unread hopen => simp only [putPicture, preparePicture, hopen]
  | noPixels hopen hp =>
    have hnorm := Picture.normalize_eq_error_iff (c := c).2 (.inl ⟨hp, rfl⟩)
    simp only [putPicture, preparePicture, hopen, hnorm]
  | noCanvas hopen hp hc =>
    have hnorm := Picture.normalize_eq_error_iff.2 (.inr ⟨hp, hc, rfl⟩)
    simp only [putPicture, preparePicture, hopen, hnorm]
  | unwritten hopen hp hc hwrite =>
    obtain ⟨n, hnorm⟩ := Picture.exists_normalize_iff.2 ⟨hp, hc⟩
    obtain ⟨file, hfile⟩ := exists_pngFile_normalize hnorm
    simp only [putPicture, preparePicture, hopen, hnorm, hfile, hwrite]

theorem putPicture_cases (t : FileTree) (c : Canvas) (src dst : Path) :
    (∃ e, t.Fails c src dst e) ∨
      ∃ p n file t', openPicture src (t.read src) = .ok p ∧ p.normalize c = .ok n ∧
        pngFile n.image = .ok file ∧ t.write dst file = .ok t' ∧
        t.putPicture c src dst = (.ok n, t') := by
  rcases hopen : openPicture src (t.read src) with fault | p
  · exact .inl ⟨_, .unread hopen⟩
  rcases hnorm : p.normalize c with e | n
  · obtain ⟨hp, -⟩ | ⟨hp, hc, -⟩ := Picture.normalize_eq_error_iff.1 hnorm
    · exact .inl ⟨_, .noPixels hopen hp⟩
    · exact .inl ⟨_, .noCanvas hopen hp hc⟩
  obtain ⟨hp, hc⟩ := Picture.exists_normalize_iff.1 ⟨n, hnorm⟩
  obtain ⟨file, hfile⟩ := exists_pngFile_normalize hnorm
  rcases hwrite : t.write dst file with fault | t'
  · exact .inl ⟨_, .unwritten hopen hp hc (write_error_congr hwrite)⟩
  · refine .inr ⟨p, n, file, t', rfl, hnorm, hfile, hwrite, ?_⟩
    simp only [putPicture, preparePicture, hopen, hnorm, hfile, hwrite]

end FileTree

/-- The result of a picture file and the tree after it, told by the tree before it. -/
structure AllOrNothing (c : Canvas) (src dst : Path) (t t' : FileTree)
    (r : Except ImageError Normalized) : Prop where
  fails : ∀ e, r = .error e ↔ t.Fails c src dst e
  encodes : ∀ e, r ≠ .error (.encode e)
  nothing : ∀ e, r = .error e → t' = t
  all : ∀ n, r = .ok n → ∃ p file, openPicture src (t.read src) = .ok p ∧
    p.normalize c = .ok n ∧ pngFile n.image = .ok file ∧ t.HasWritten t' dst file

theorem allOrNothing_putPicture (t : FileTree) (c : Canvas) (src dst : Path) :
    AllOrNothing c src dst t (t.putPicture c src dst).2 (t.putPicture c src dst).1 := by
  obtain ⟨e, hfails⟩ | ⟨p, n, file, t', hopen, hnorm, hfile, hwrite, hput⟩ :=
    putPicture_cases t c src dst
  · rw [hfails.putPicture_eq]
    refine ⟨?_, ?_, fun _ _ => rfl, by simp⟩
    · intro e'
      constructor
      · rintro ⟨⟩
        exact hfails
      · intro hother
        exact congrArg Prod.fst (hfails.putPicture_eq.symm.trans hother.putPicture_eq)
    · intro fault h
      obtain rfl := Except.error.inj h
      cases hfails
  · rw [hput]
    refine ⟨?_, by simp, by simp, ?_⟩
    · intro e
      refine iff_of_false (by simp) fun hfails => ?_
      have hresult := hput.symm.trans hfails.putPicture_eq
      simp at hresult
    · rintro n' ⟨⟩
      exact ⟨p, file, hopen, hnorm, hfile, hasWritten_of_write hwrite⟩

/-- Bringing a picture from one file into another, or into itself, changes the destination as a whole
or nothing. It fails for the source, for a size without pixels or for the destination alone. -/
theorem allOrNothing_normalizeFile (filter : Log.Filter) (c : Canvas) (src dst : Path)
    (s : Session) : AllOrNothing c src dst s.tree
      ((normalizeFile (Session.host filter) c src dst).run s).2.tree
      ((normalizeFile (Session.host filter) c src dst).run s).1 := by
  obtain ⟨hresult, htree⟩ := Session.yields_normalizeFile filter s c src dst
  rw [hresult, htree]
  exact allOrNothing_putPicture s.tree c src dst

end

def normalizeInPlace (p : Path) : Except ImageError Normalized × Session :=
  (normalizeFile (Session.host []) twoPicturesSettings.canvas p p).run
    (Session.start FileTree.twoPictures)

/-- A picture gets a larger canvas in its own file, and a file without one stays as it is. -/
theorem allOrNothing_inPlace :
    (∃ picture n file,
      openPicture ⟨"in/a.png"⟩ (FileTree.twoPictures.read ⟨"in/a.png"⟩) = .ok picture ∧
      picture.normalize twoPicturesSettings.canvas = .ok n ∧ n.sourceSize = ⟨1, 1⟩ ∧
      n.image.size = ⟨2, 1⟩ ∧ (normalizeInPlace ⟨"in/a.png"⟩).1 = .ok n ∧ pngFile n.image = .ok file ∧
      (normalizeInPlace ⟨"in/a.png"⟩).2.tree.read ⟨"in/a.png"⟩ = .ok file) ∧
    (normalizeInPlace ⟨"in/b.png"⟩).1 = .error (.decode (.png .endOfFile)) ∧
      (normalizeInPlace ⟨"in/b.png"⟩).2.tree = FileTree.twoPictures := by
  have hresult (p : Path) : AllOrNothing twoPicturesSettings.canvas p p FileTree.twoPictures
      (normalizeInPlace p).2.tree (normalizeInPlace p).1 :=
    allOrNothing_normalizeFile [] twoPicturesSettings.canvas p p (Session.start FileTree.twoPictures)
  constructor
  · have hsizes : (normalizeInPlace ⟨"in/a.png"⟩).1.map (fun n => (n.sourceSize, n.image.size)) =
        .ok (⟨1, 1⟩, ⟨2, 1⟩) := by decide +kernel
    rcases hrun : (normalizeInPlace ⟨"in/a.png"⟩).1 with e | n
    · rw [hrun] at hsizes
      contradiction
    rw [hrun] at hsizes
    obtain ⟨hsource, himage⟩ := Prod.mk.inj (Except.ok.inj hsizes)
    obtain ⟨picture, file, hopen, hnorm, hfile, hwritten⟩ := (hresult ⟨"in/a.png"⟩).all n hrun
    have hread := hwritten.readBack FileTree.wellFormed_twoPictures rfl
    exact ⟨picture, n, file, hopen, hnorm, hsource, himage, rfl, hfile, hread⟩
  · have hbroken : (normalizeInPlace ⟨"in/b.png"⟩).1.map (fun _ => ()) =
        .error (.decode (.png .endOfFile)) := by decide +kernel
    rcases hrun : (normalizeInPlace ⟨"in/b.png"⟩).1 with e | n
    · rw [hrun] at hbroken
      exact ⟨congrArg _ (Except.error.inj hbroken), (hresult ⟨"in/b.png"⟩).nothing e hrun⟩
    · rw [hrun] at hbroken
      contradiction

end Storefront
