import Storefront.Proofs.Batch.Collision
import Storefront.Proofs.Batch.Frame

/-! The outputs of a batch in the tree after it: which item wrote each of them, and what stands
there. -/

namespace Storefront

open FileTree

namespace BatchState

variable [Codecs] {settings : ScreenshotSettings} {b : BatchState} {files : List Path} {t : FileTree}
  {outcome : ItemOutcome} {output : Path} {j : Nat}

theorem course_eq_runItems (settings : ScreenshotSettings) (t : FileTree) (files : List Path) :
    (course settings ⟨[], t⟩ files).1 =
      (runItems (Session.host []) {} settings files.length files (Session.start t)).1 :=
  (Session.yields_normalizeItems [] (Session.start t) Observers.LookOn.none settings files.length
    files 0 []).1.symm

theorem output_course (h : (course settings ⟨[], t⟩ files).1[j]? = some outcome)
    (ho : outcome.output? = some output) :
    ∃ src, files[j]? = some src ∧ outputPath? src settings.outputDir = some output ∧
      ∀ i < j, keyAt? settings.outputDir files i ≠ some (collisionKey output) := by
  rw [course_eq_runItems] at h
  exact output_runItems _ _ _ _ h ho

theorem collides_course {src : Path} {name : String} :
    (course settings ⟨[], t⟩ files).1[j]? =
        some (.failed src ("output name collides with " ++ name)) ↔
      ∃ i first, FirstClaim settings.outputDir files i j ∧ files[j]? = some src ∧
        files[i]? = some first ∧ first.displayName = name := by
  rw [course_eq_runItems]
  exact collides_iff_firstClaim _ _ _ _

theorem written_course (hlf : b.tree.LinkFree) (h : (b.course settings files).1[j]? = some outcome)
    (ho : outcome.output? = some output) :
    ∃ name l n file, outcome.source.fileName? = some name ∧ IsEntryName (outputName name) ∧
      output = settings.outputDir.join (outputName name) ∧
      (b.after settings files).tree.Leads settings.outputDir (outputName name) l ∧
      preparePicture settings.canvas outcome.source
        ((b.after settings (files.take j)).tree.read outcome.source) = .ok (n, file) ∧
      (b.after settings files).tree.node? (outputName name :: l) = some (.file file) := by
  obtain ⟨-, hstep, hafter⟩ := split_of_course outcome.source h rfl
  obtain ⟨name, hn, hname, rfl, -⟩ := name_of_course (List.mem_of_getElem? h) ho
  rw [hstep] at ho
  obtain ⟨n, file, hprep, -, hread⟩ :=
    read_output (linkFree_after hlf (files.take j)) ho (files.drop (j + 1))
  rw [← hafter] at hread
  obtain ⟨l, hl, hnode⟩ := (read_join_eq_ok_iff (linkFree_after hlf files) hname).1 hread
  exact ⟨name, l, n, file, hn, hname, rfl, hl, hprep, hnode⟩

theorem key_ne_course {i : Nat} (hij : i ≠ j) {outcome' : ItemOutcome} {output' : Path}
    (hi : (course settings ⟨[], t⟩ files).1[i]? = some outcome)
    (hj : (course settings ⟨[], t⟩ files).1[j]? = some outcome')
    (ho : outcome.output? = some output) (ho' : outcome'.output? = some output') :
    collisionKey output ≠ collisionKey output' := by
  rw [course_eq_runItems] at hi hj
  exact key_ne _ _ _ _ hij hi hj ho ho'

theorem nodup_keys_course (settings : ScreenshotSettings) (t : FileTree) (files : List Path) :
    (((course settings ⟨[], t⟩ files).1.filterMap (·.output?)).map collisionKey).Nodup := by
  rw [List.nodup_iff_pairwise_ne, List.pairwise_map, List.pairwise_filterMap,
    List.pairwise_iff_getElem]
  intro i j hi hj hij output ho output' ho'
  exact key_ne_course (Nat.ne_of_lt hij) (List.getElem?_eq_getElem hi) (List.getElem?_eq_getElem hj)
    ho ho'

theorem claims_after (settings : ScreenshotSettings) (b : BatchState) (files : List Path) :
    (b.after settings files).claims = Claims.after settings.outputDir b.claims files := by
  induction files generalizing b with
  | nil => rfl
  | cons src files ih => rw [after_cons, ih, claims_step, Claims.after]

theorem claim_after {src : Path} {i : Nat} (hpath : outputPath? src settings.outputDir = some output)
    (hfresh : ∀ other ∈ files.take i,
      outputKey? other settings.outputDir ≠ some (collisionKey output)) :
    ((after settings ⟨[], t⟩ (files.take i)).claims).claim src settings.outputDir =
      .ok (output, (collisionKey output, src) ::
        (after settings ⟨[], t⟩ (files.take i)).claims) := by
  refine Claims.claim_eq_ok_iff.2 ⟨hpath, ?_, rfl⟩
  rw [claims_after, Claims.lookup_after, List.lookup_nil, Option.none_or, List.find?_eq_none]
  intro other hother
  simpa using hfresh other hother

theorem exists_output_of_node? (hlf : b.tree.LinkFree) {k : Location} {n : Node}
    (hbefore : b.tree.node? k = none) (hn : (b.after settings files).tree.node? k = some n) :
    ∃ (j : Nat) (outcome : ItemOutcome) (output : Path),
      (b.course settings files).1[j]? = some outcome ∧
      outcome.output? = some output ∧ b.tree.target? output = some k := by
  by_contra hnone
  have hspared : b.tree.SparedBy (b.course settings files).1 k := by
    intro outcome ho output hout htarget
    obtain ⟨j, hj⟩ := List.mem_iff_getElem?.1 ho
    exact hnone ⟨j, outcome, output, hj, hout, htarget⟩
  rw [node?_after hlf hspared, hbefore] at hn
  contradiction

end BatchState
end Storefront
