import Storefront.Proofs.Batch.Claims
import Storefront.Proofs.Batch.Course
import Storefront.Proofs.Files.Agreement

/-! What the items of a batch change: each writes its own output or nothing, the directories stay,
and an output that is written stays as it is to the end. -/

namespace Storefront

/-- No output of these outcomes stands at the location. -/
def FileTree.SparedBy (t : FileTree) (outcomes : List ItemOutcome) (k : Location) : Prop :=
  ∀ outcome ∈ outcomes, ∀ output, outcome.output? = some output → t.target? output ≠ some k

namespace BatchState

open FileTree

variable [Codecs] {settings : ScreenshotSettings} {b : BatchState} {src output : Path}

theorem tree_step_of_failed (h : (b.step settings src).1.output? = none) :
    (b.step settings src).2.tree = b.tree := by
  obtain ⟨fault, -, hs⟩ | ⟨o, claims, e, -, hs⟩ | ⟨o, claims, n, file, t, -, -, -, hs⟩ :=
    step_cases settings b src
  · rw [hs]
  · rw [hs]
  · rw [hs] at h
    simp [ItemOutcome.output?] at h

theorem step_of_output (h : (b.step settings src).1.output? = some output) :
    ∃ n file, b.claims.claim src settings.outputDir = .ok (output, (b.step settings src).2.claims) ∧
      preparePicture settings.canvas src (b.tree.read src) = .ok (n, file) ∧
      b.tree.write output file = .ok (b.step settings src).2.tree ∧
      (b.step settings src).1 =
        .normalized src output n.sourceSize n.placement n.flattenedAlpha := by
  obtain ⟨fault, -, hs⟩ | ⟨o, claims, e, -, hs⟩ | ⟨o, claims, n, file, t, hc, hp, hw, hs⟩ :=
    step_cases settings b src
  · rw [hs] at h
    simp [ItemOutcome.output?] at h
  · rw [hs] at h
    simp [ItemOutcome.output?] at h
  · rw [hs] at h ⊢
    obtain rfl : o = output := Option.some.inj h
    exact ⟨n, file, hc, hp, hw, rfl⟩

theorem name_of_step (h : (b.step settings src).1.output? = some output) :
    ∃ name, src.fileName? = some name ∧ IsEntryName (outputName name) ∧
      output = settings.outputDir.join (outputName name) := by
  obtain ⟨n, file, hc, -⟩ := step_of_output h
  obtain ⟨name, hn, ho⟩ := outputPath?_eq_some_iff.1 (Claims.claim_eq_ok_iff.1 hc).1
  exact ⟨name, hn, isEntryName_outputName (Path.isEntryName_of_fileName? hn), ho⟩

theorem put_of_step (hlf : b.tree.LinkFree) (h : (b.step settings src).1.output? = some output) :
    ∃ k n file, b.tree.target? output = some k ∧ k ≠ [] ∧ ¬b.tree.IsDirectoryAt k ∧
      preparePicture settings.canvas src (b.tree.read src) = .ok (n, file) ∧
      (b.step settings src).2.tree = b.tree.put k (.file file) ∧
      (b.step settings src).1 =
        .normalized src output n.sourceSize n.placement n.flattenedAlpha := by
  obtain ⟨n, file, -, hp, hw, hs⟩ := step_of_output h
  obtain ⟨name, -, hname, rfl⟩ := name_of_step h
  obtain ⟨l, hl, hdir, ht⟩ := (write_join_eq_ok_iff hlf hname).1 hw
  exact ⟨outputName name :: l, n, file, (target?_join_eq_some_iff hlf hname).2 ⟨l, hl, rfl⟩,
    List.cons_ne_nil _ _, hdir, hp, ht, hs⟩

theorem linkFree_step (hlf : b.tree.LinkFree) : (b.step settings src).2.tree.LinkFree := by
  rcases ho : (b.step settings src).1.output? with - | output
  · rwa [tree_step_of_failed ho]
  · obtain ⟨k, n, file, -, -, -, -, ht, -⟩ := put_of_step hlf ho
    rw [ht]
    exact hlf.put (by simp)

theorem sameDirs_step (hlf : b.tree.LinkFree) : b.tree.SameDirs (b.step settings src).2.tree := by
  rcases ho : (b.step settings src).1.output? with - | output
  · rw [tree_step_of_failed ho]
    exact .refl b.tree
  · obtain ⟨k, n, file, -, hk, hdir, -, ht, -⟩ := put_of_step hlf ho
    rw [ht]
    exact sameDirs_put_file hk hdir file

theorem distinct_step (hlf : b.tree.LinkFree) (hd : (b.tree.entries.map (·.1)).Nodup) :
    ((b.step settings src).2.tree.entries.map (·.1)).Nodup := by
  rcases ho : (b.step settings src).1.output? with - | output
  · rwa [tree_step_of_failed ho]
  · obtain ⟨k, n, file, -, -, -, -, ht, -⟩ := put_of_step hlf ho
    rw [ht]
    exact nodup_putEntry hd

theorem entry_ne_root_step (hlf : b.tree.LinkFree) (hroot : ∀ e ∈ b.tree.entries, e.1 ≠ []) :
    ∀ e ∈ (b.step settings src).2.tree.entries, e.1 ≠ [] := by
  rcases ho : (b.step settings src).1.output? with - | output
  · rwa [tree_step_of_failed ho]
  · obtain ⟨k, n, file, -, hk, -, -, ht, -⟩ := put_of_step hlf ho
    rw [ht]
    intro e he
    rcases mem_putEntry he with rfl | he
    · exact hk
    · exact hroot e he

theorem node?_step (hlf : b.tree.LinkFree) {k : Location}
    (hk : ∀ output, (b.step settings src).1.output? = some output → b.tree.target? output ≠ some k) :
    (b.step settings src).2.tree.node? k = b.tree.node? k := by
  rcases ho : (b.step settings src).1.output? with - | output
  · rw [tree_step_of_failed ho]
  · obtain ⟨k', n, file, hk', hne, -, -, ht, -⟩ := put_of_step hlf ho
    have hkk : k ≠ k' := by
      rintro rfl
      exact hk output ho hk'
    rw [ht, node?_put _ hne, if_neg hkk]

theorem lookup_step {key : String} (h : b.claims.lookup key ≠ none) :
    (b.step settings src).2.claims.lookup key ≠ none := by
  obtain ⟨fault, -, hs⟩ | ⟨o, claims, e, hc, hs⟩ | ⟨o, claims, n, file, t, hc, -, -, hs⟩ :=
    step_cases settings b src
  · rwa [hs]
  · rw [hs]
    exact Claims.lookup_of_claim hc h
  · rw [hs]
    exact Claims.lookup_of_claim hc h

variable {outcome : ItemOutcome} {files : List Path}

theorem linkFree_after (hlf : b.tree.LinkFree) (files : List Path) :
    (b.after settings files).tree.LinkFree := by
  induction files generalizing b with
  | nil => exact hlf
  | cons src files ih => exact ih (linkFree_step hlf)

theorem sameDirs_after (hlf : b.tree.LinkFree) (files : List Path) :
    b.tree.SameDirs (b.after settings files).tree := by
  induction files generalizing b with
  | nil => exact .refl b.tree
  | cons src files ih => exact (sameDirs_step hlf).trans (ih (linkFree_step hlf))

theorem distinct_after (settings : ScreenshotSettings) (hlf : b.tree.LinkFree)
    (hd : (b.tree.entries.map (·.1)).Nodup) (files : List Path) :
    ((b.after settings files).tree.entries.map (·.1)).Nodup := by
  induction files generalizing b with
  | nil => exact hd
  | cons src files ih => exact ih (linkFree_step hlf) (distinct_step hlf hd)

theorem entry_ne_root_after (settings : ScreenshotSettings) (hlf : b.tree.LinkFree)
    (hroot : ∀ e ∈ b.tree.entries, e.1 ≠ []) (files : List Path) :
    ∀ e ∈ (b.after settings files).tree.entries, e.1 ≠ [] := by
  induction files generalizing b with
  | nil => exact hroot
  | cons src files ih => exact ih (linkFree_step hlf) (entry_ne_root_step hlf hroot)

theorem name_of_course (ho : outcome ∈ (b.course settings files).1)
    (h : outcome.output? = some output) :
    ∃ name, outcome.source.fileName? = some name ∧ IsEntryName (outputName name) ∧
      output = settings.outputDir.join (outputName name) ∧
      b.claims.lookup (collisionKey output) = none := by
  induction files generalizing b with
  | nil => simp at ho
  | cons src files ih =>
    rcases List.mem_cons.1 ho with rfl | ho
    · obtain ⟨n, file, hc, -, -, hs⟩ := step_of_output h
      obtain ⟨name, hn, hname, hj⟩ := name_of_step h
      exact ⟨name, by rwa [hs], hname, hj, (Claims.claim_eq_ok_iff.1 hc).2.1⟩
    · obtain ⟨name, hn, hname, hj, hfree⟩ := ih ho
      refine ⟨name, hn, hname, hj, ?_⟩
      rcases hl : b.claims.lookup (collisionKey output) with - | first
      · rfl
      · exact absurd hfree (lookup_step (by simp [hl]))

theorem node?_after (hlf : b.tree.LinkFree) {k : Location}
    (hk : b.tree.SparedBy (b.course settings files).1 k) :
    (b.after settings files).tree.node? k = b.tree.node? k := by
  induction files generalizing b with
  | nil => rfl
  | cons src files ih =>
    have hstep := node?_step hlf (hk (b.step settings src).1 List.mem_cons_self)
    rw [after_cons, ← hstep]
    apply ih (linkFree_step hlf)
    intro outcome ho output hout
    obtain ⟨name, -, hname, rfl, -⟩ := name_of_course ho hout
    -- The directories stay, so a later output has the target now that it has then.
    rw [(sameDirs_step hlf).target?_join hlf (linkFree_step hlf) hname]
    exact hk outcome (List.mem_cons_of_mem _ ho) _ hout

theorem read_output (hlf : b.tree.LinkFree) (h : (b.step settings src).1.output? = some output)
    (files : List Path) :
    ∃ n file, preparePicture settings.canvas src (b.tree.read src) = .ok (n, file) ∧
      (b.step settings src).1 =
        .normalized src output n.sourceSize n.placement n.flattenedAlpha ∧
      ((b.step settings src).2.after settings files).tree.read output = .ok file := by
  obtain ⟨n, file, hc, hp, hw, hs⟩ := step_of_output h
  obtain ⟨name, -, hname, rfl⟩ := name_of_step h
  obtain ⟨l, hl, hdir, ht⟩ := (write_join_eq_ok_iff hlf hname).1 hw
  have hlf' : (b.step settings src).2.tree.LinkFree := linkFree_step hlf
  have hsame : b.tree.SameDirs (b.step settings src).2.tree := sameDirs_step hlf
  refine ⟨n, file, hp, hs, ?_⟩
  have hl' := hsame.leads_iff.2 hl
  apply ((sameDirs_after hlf' files).leads_iff.2 hl').read (linkFree_after hlf' files) hname
  rw [node?_after hlf', ht, node?_put _ (List.cons_ne_nil _ _), if_pos rfl]
  -- A later output has another key, thus another name in the same directory.
  intro outcome ho later hlater htarget
  obtain ⟨other, -, hother, rfl, hfree⟩ := name_of_course ho hlater
  obtain ⟨l', hl₂, hk⟩ := (target?_join_eq_some_iff hlf' hother).1 htarget
  obtain ⟨hnames, rfl⟩ := List.cons.inj hk
  rw [← hnames, Claims.lookup_own_of_claim hc] at hfree
  simp at hfree

end BatchState
end Storefront
