import Storefront.Proofs.Batch.EndState
import Storefront.Proofs.Batch.Outputs
import Storefront.Proofs.Batch.Verdict
import Storefront.Proofs.Files.Listing

/-! The order of a batch whose items keep apart. Each item fares as it does alone, so every order
gives each source the same outcome and leaves the same files. -/

namespace Storefront

open FileTree

def DistinctKeys (dir : Path) (files : List Path) : Prop :=
  (files.filterMap fun src => outputKey? src dir).Nodup

instance (dir : Path) (files : List Path) : Decidable (DistinctKeys dir files) :=
  inferInstanceAs (Decidable (List.Nodup _))

theorem DistinctKeys.perm {dir : Path} {files files' : List Path} (h : DistinctKeys dir files)
    (hperm : files'.Perm files) : DistinctKeys dir files' :=
  (hperm.filterMap _).nodup_iff.2 h

theorem DistinctKeys.ne_of_mem_take {dir src other : Path} {files : List Path} {i : Nat} {key : String}
    (h : DistinctKeys dir files) (hi : files[i]? = some src) (hother : other ∈ files.take i)
    (hkey : outputKey? src dir = some key) : outputKey? other dir ≠ some key := by
  intro hsame
  obtain ⟨hlt, rfl⟩ := List.getElem?_eq_some_iff.1 hi
  have hsplit : files = files.take i ++ files[i] :: files.drop (i + 1) := by
    rw [← List.drop_eq_getElem_cons hlt, List.take_append_drop]
  unfold DistinctKeys at h
  rw [hsplit, List.filterMap_append, List.nodup_append] at h
  have hfront : key ∈ (files.take i).filterMap fun src => outputKey? src dir :=
    List.mem_filterMap.2 ⟨other, hother, hsame⟩
  have hback : key ∈ (files[i] :: files.drop (i + 1)).filterMap fun src => outputKey? src dir :=
    List.mem_filterMap.2 ⟨files[i], List.mem_cons_self, hkey⟩
  exact h.2.2 key hfront key hback rfl

theorem Undisturbed.perm {t : FileTree} {dir : Path} {files files' : List Path}
    (h : Undisturbed t dir files) (hperm : files'.Perm files) : Undisturbed t dir files' :=
  (hperm.pairwise_iff fun hab => ⟨hab.2, hab.1⟩).2 h

namespace FileTree

/-- The same entries, in whatever order they are kept. -/
structure SameEntries (t t' : FileTree) : Prop where
  workDir : t'.workDir = t.workDir
  entries : t'.entries.Perm t.entries
  node? : ∀ k, t'.node? k = t.node? k

theorem WellFormed.entry_ne_root {t : FileTree} (h : t.WellFormed) : ∀ e ∈ t.entries, e.1 ≠ [] := by
  intro e he
  obtain ⟨name, dir, hk, -⟩ := h.named e he
  rw [hk]
  exact List.cons_ne_nil _ _

end FileTree

section

variable [Codecs]

def outcomeAlone (settings : ScreenshotSettings) (t : FileTree) (src : Path) : ItemOutcome :=
  (BatchState.step settings ⟨[], t⟩ src).1

namespace BatchState

variable {settings : ScreenshotSettings} {t : FileTree} {files files' : List Path} {src : Path}

theorem verdict_after (hkeys : DistinctKeys settings.outputDir files) {i : Nat}
    (hi : files[i]? = some src) :
    (after settings ⟨[], t⟩ (files.take i)).claims.verdict src settings.outputDir =
      Claims.verdict [] src settings.outputDir := by
  unfold Claims.verdict
  rcases ho : outputPath? src settings.outputDir with - | output
  · rw [Claims.claim_eq_noFileName_iff.2 ho, Claims.claim_eq_noFileName_iff.2 ho]
  · have hkey : outputKey? src settings.outputDir = some (collisionKey output) :=
      outputKey?_eq_some_iff.2 ⟨output, ho, rfl⟩
    rw [claim_after ho fun other hother => hkeys.ne_of_mem_take hi hother hkey,
      Claims.claim_eq_ok_iff.2 ⟨ho, List.lookup_nil, rfl⟩]
    rfl

theorem course_eq_map_alone (hlf : t.LinkFree) (hkeys : DistinctKeys settings.outputDir files)
    (hund : Undisturbed t settings.outputDir files) :
    (course settings ⟨[], t⟩ files).1 = files.map (outcomeAlone settings t) := by
  apply List.ext_getElem?
  intro i
  rw [getElem?_course, List.getElem?_map]
  rcases hsrc : files[i]? with - | src
  · rfl
  · have hread : (after settings ⟨[], t⟩ (files.take i)).tree.read src = t.read src :=
      read_congr (lookup_before (b := ⟨[], t⟩) hlf hund hsrc)
    exact congrArg some (outcome_step_congr (b := ⟨[], t⟩) (verdict_after hkeys hsrc) hread
      fun output ho => writeFault?_after (b := ⟨[], t⟩) hlf ho (files.take i))

theorem node?_of_target (hlf : t.LinkFree) (hund : Undisturbed t settings.outputDir files)
    {outcome : ItemOutcome} {output : Path} {k : Location}
    (hmem : outcome ∈ (course settings ⟨[], t⟩ files).1) (hout : outcome.output? = some output)
    (hk : t.target? output = some k) :
    ∃ n file, preparePicture settings.canvas outcome.source (t.read outcome.source) = .ok (n, file) ∧
      (after settings ⟨[], t⟩ files).tree.node? k = some (.file file) := by
  obtain ⟨n, file, hprep, -, hread⟩ := prepared_of_output (b := ⟨[], t⟩) hlf hund hmem hout
  obtain ⟨name, -, hname, rfl, -⟩ := name_of_course hmem hout
  obtain ⟨l, hl, rfl⟩ := (target?_join_eq_some_iff hlf hname).1 hk
  have hlf' : (after settings ⟨[], t⟩ files).tree.LinkFree :=
    linkFree_after (b := ⟨[], t⟩) hlf files
  have hl' : (after settings ⟨[], t⟩ files).tree.Leads settings.outputDir (outputName name) l :=
    (sameDirs_after (b := ⟨[], t⟩) hlf files).1.leads hl
  obtain ⟨l₂, hl₂, hnode⟩ := (read_join_eq_ok_iff hlf' hname).1 hread
  obtain rfl : l = l₂ := Except.ok.inj (hl'.folder.symm.trans hl₂.folder)
  exact ⟨n, file, hprep, hnode⟩

theorem node?_after_perm (hlf : t.LinkFree) (hkeys : DistinctKeys settings.outputDir files)
    (hund : Undisturbed t settings.outputDir files) (hperm : files'.Perm files) (k : Location) :
    (after settings ⟨[], t⟩ files').tree.node? k = (after settings ⟨[], t⟩ files).tree.node? k := by
  have hmem (outcome : ItemOutcome) : outcome ∈ (course settings ⟨[], t⟩ files').1 ↔
      outcome ∈ (course settings ⟨[], t⟩ files).1 := by
    rw [course_eq_map_alone hlf hkeys hund,
      course_eq_map_alone hlf (hkeys.perm hperm) (hund.perm hperm)]
    exact (hperm.map _).mem_iff
  by_cases htouched : ∃ outcome ∈ (course settings ⟨[], t⟩ files).1, ∃ output,
      outcome.output? = some output ∧ t.target? output = some k
  · -- Both orders leave what the source of the output held at first.
    obtain ⟨outcome, ho, output, hout, hk⟩ := htouched
    obtain ⟨n, file, hprep, hnode⟩ := node?_of_target hlf hund ho hout hk
    obtain ⟨n', file', hprep', hnode'⟩ :=
      node?_of_target hlf (hund.perm hperm) ((hmem outcome).2 ho) hout hk
    rw [hprep] at hprep'
    obtain ⟨-, rfl⟩ := Prod.mk.inj (Except.ok.inj hprep')
    rw [hnode, hnode']
  · have hspared : t.SparedBy (course settings ⟨[], t⟩ files).1 k := by
      intro outcome ho output hout hk
      exact htouched ⟨outcome, ho, output, hout, hk⟩
    have hspared' : t.SparedBy (course settings ⟨[], t⟩ files').1 k :=
      fun outcome ho => hspared outcome ((hmem outcome).1 ho)
    rw [node?_after (b := ⟨[], t⟩) hlf hspared, node?_after (b := ⟨[], t⟩) hlf hspared']

end BatchState

theorem BatchState.sameEntries_after_perm {settings : ScreenshotSettings} {t : FileTree}
    {files files' : List Path} (hwf : t.WellFormed) (hlf : t.LinkFree)
    (hkeys : DistinctKeys settings.outputDir files) (hund : Undisturbed t settings.outputDir files)
    (hperm : files'.Perm files) :
    (after settings ⟨[], t⟩ files).tree.SameEntries (after settings ⟨[], t⟩ files').tree where
  workDir := by
    have hkeeps (items : List Path) : t.KeepsDirs (after settings ⟨[], t⟩ items).tree :=
      (sameDirs_after (b := ⟨[], t⟩) hlf items).1
    rw [(hkeeps files').workDir, (hkeeps files).workDir]
  entries := by
    have hdistinct := distinct_after settings (b := ⟨[], t⟩) hlf hwf.distinct
    have hroot := entry_ne_root_after settings (b := ⟨[], t⟩) hlf hwf.entry_ne_root
    exact perm_entries (hdistinct files) (hdistinct files') (hroot files) (hroot files')
      (node?_after_perm hlf hkeys hund hperm)
  node? := node?_after_perm hlf hkeys hund hperm

/-- Items whose outputs have different keys, and which do not come by each other's outputs, fare in
every order of the batch as each of them does alone, and every order leaves the same files. -/
theorem sameInAnyOrder_normalizeBatch (filter filter' : Log.Filter)
    (observers observers' : Observers (StateM Session)) (ho : observers.LookOn)
    (ho' : observers'.LookOn) (settings : ScreenshotSettings) (files files' : List Path) (s : Session)
    (hwf : s.tree.WellFormed) (hlf : s.tree.LinkFree)
    (hkeys : DistinctKeys settings.outputDir files)
    (hund : Undisturbed s.tree settings.outputDir files) (hperm : files'.Perm files) :
    let run := (normalizeBatch (Session.host filter) observers settings files).run s
    let run' := (normalizeBatch (Session.host filter') observers' settings files').run s
    (∃ outcomeOf : Path → ItemOutcome,
      run.1.outcomes = files.map outcomeOf ∧ run'.1.outcomes = files'.map outcomeOf ∧
      ∀ src, ((normalizeBatch (Session.host filter) observers settings [src]).run s).1.outcomes =
        [outcomeOf src]) ∧
    run.2.tree.SameEntries run'.2.tree := by
  intro run run'
  refine ⟨⟨outcomeAlone settings s.tree, ?_, ?_, fun src => ?_⟩, ?_⟩
  · rw [Session.outcomes_normalizeBatch filter s ho]
    exact BatchState.course_eq_map_alone hlf hkeys hund
  · rw [Session.outcomes_normalizeBatch filter' s ho']
    exact BatchState.course_eq_map_alone hlf (hkeys.perm hperm) (hund.perm hperm)
  · rw [Session.outcomes_normalizeBatch filter s ho]
    rfl
  · rw [Session.tree_normalizeBatch filter s ho, Session.tree_normalizeBatch filter' s ho']
    exact BatchState.sameEntries_after_perm hwf hlf hkeys hund hperm

end

/-- A picture, a file that is none, and a path without a name, in two orders. -/
theorem sameInAnyOrder_twoPictures :
    let files := [⟨"in/a.png"⟩, ⟨"in/b.png"⟩, ⟨"in/.."⟩]
    let run := (normalizeBatch (Session.host []) Session.observers twoPicturesSettings files).run
      (Session.start FileTree.twoPictures)
    let run' := (normalizeBatch (Session.host []) {} twoPicturesSettings files.reverse).run
      (Session.start FileTree.twoPictures)
    run'.1.outcomes.map (·.output?) = [none, none, some ⟨"out/a.png"⟩] ∧
      (∃ outcomeOf : Path → ItemOutcome,
        run.1.outcomes = files.map outcomeOf ∧ run'.1.outcomes = files.reverse.map outcomeOf ∧
        ∀ src, ((normalizeBatch (Session.host []) Session.observers twoPicturesSettings [src]).run
          (Session.start FileTree.twoPictures)).1.outcomes = [outcomeOf src]) ∧
      run.2.tree.SameEntries run'.2.tree := by
  refine ⟨by decide +kernel, ?_⟩
  exact sameInAnyOrder_normalizeBatch [] [] Session.observers {} Session.lookOn_observers
    Observers.LookOn.none twoPicturesSettings _ _ (Session.start FileTree.twoPictures)
    FileTree.wellFormed_twoPictures FileTree.linkFree_twoPictures
    (by decide +kernel) (by decide +kernel) (List.reverse_perm _)

end Storefront
