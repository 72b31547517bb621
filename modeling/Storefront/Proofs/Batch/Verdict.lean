import Storefront.Proofs.Batch.Frame
import Storefront.Proofs.Files.Writing

/-! What decides the outcome of an item: whether its output is claimed, what its source holds, and
whether its output can be written. The items of a batch leave the last of these as it is. -/

namespace Storefront

def Claims.verdict (claims : Claims) (src dir : Path) : Except ItemFault Path :=
  (claims.claim src dir).map Prod.fst

theorem Claims.outputPath?_of_verdict {claims : Claims} {src dir output : Path}
    (h : claims.verdict src dir = .ok output) : outputPath? src dir = some output := by
  unfold verdict at h
  rcases hc : claims.claim src dir with fault | ⟨o, claims'⟩
  · rw [hc] at h
    contradiction
  · rw [hc] at h
    obtain rfl : o = output := Except.ok.inj h
    exact (claim_eq_ok_iff.1 hc).1

variable [Codecs]

theorem FileTree.fst_putPicture_congr {t t' : FileTree} {c : Canvas} {src dst : Path}
    (hread : t'.read src = t.read src) (hwrite : t'.writeFault? dst = t.writeFault? dst) :
    (t'.putPicture c src dst).1 = (t.putPicture c src dst).1 := by
  unfold putPicture
  rw [hread]
  rcases preparePicture c src (t.read src) with e | ⟨n, file⟩
  · rfl
  · -- Both writes fail for the same reason, or neither does.
    rcases hw : t.write dst file with e | t₁
    · have hw' : t'.write dst file = .error e :=
        write_eq_error_iff.2 (hwrite.trans (write_eq_error_iff.1 hw))
      simp only [hw, hw']
    · obtain ⟨t₂, hw'⟩ : ∃ t₂, t'.write dst file = .ok t₂ :=
        exists_write_iff.2 (hwrite.trans (exists_write_iff.1 ⟨t₁, hw⟩))
      simp only [hw, hw']

namespace BatchState

open FileTree

variable {settings : ScreenshotSettings} {b b' : BatchState} {src output : Path}

theorem fst_step (settings : ScreenshotSettings) (b : BatchState) (src : Path) :
    (b.step settings src).1 =
      match b.claims.verdict src settings.outputDir with
      | .error fault => .failed src fault.message
      | .ok output => .ofResult src output (b.tree.putPicture settings.canvas src output).1 := by
  unfold step Claims.verdict
  rcases b.claims.claim src settings.outputDir with fault | ⟨output, claims⟩ <;> rfl

theorem outcome_step_congr
    (hverdict : b'.claims.verdict src settings.outputDir = b.claims.verdict src settings.outputDir)
    (hread : b'.tree.read src = b.tree.read src)
    (hwrite : ∀ output, outputPath? src settings.outputDir = some output →
      b'.tree.writeFault? output = b.tree.writeFault? output) :
    (b'.step settings src).1 = (b.step settings src).1 := by
  rw [fst_step, fst_step, hverdict]
  rcases hv : b.claims.verdict src settings.outputDir with fault | output
  · rfl
  · have ho := Claims.outputPath?_of_verdict hv
    simp only [fst_putPicture_congr hread (hwrite output ho)]

theorem tree_after_of_folder_error (hlf : b.tree.LinkFree) {e : FileError}
    (hf : b.tree.folder settings.outputDir = .error e) (files : List Path) :
    (b.after settings files).tree = b.tree := by
  induction files generalizing b with
  | nil => rfl
  | cons src files ih =>
    have hstep : (b.step settings src).2.tree = b.tree := by
      apply tree_step_of_failed
      rcases ho : (b.step settings src).1.output? with - | output
      · rfl
      · obtain ⟨k, n, file, htarget, -⟩ := put_of_step hlf ho
        obtain ⟨name, -, hname, rfl⟩ := name_of_step ho
        obtain ⟨l, hl, -⟩ := (target?_join_eq_some_iff hlf hname).1 htarget
        rw [hl.folder] at hf
        contradiction
    rw [after_cons, ih (b := (b.step settings src).2) (hstep ▸ hlf) (hstep ▸ hf), hstep]

theorem writeFault?_after (hlf : b.tree.LinkFree)
    (ho : outputPath? src settings.outputDir = some output) (files : List Path) :
    (b.after settings files).tree.writeFault? output = b.tree.writeFault? output := by
  obtain ⟨name, hn, rfl⟩ := outputPath?_eq_some_iff.1 ho
  have hname := isEntryName_outputName (Path.isEntryName_of_fileName? hn)
  rcases hf : b.tree.folder settings.outputDir with e | l
  · rw [tree_after_of_folder_error hlf hf]
  · exact (sameDirs_after hlf files).writeFault?_join hlf (linkFree_after hlf files) hname hf

end BatchState
end Storefront
