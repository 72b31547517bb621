import Storefront.Proofs.Batch.EndState
import Storefront.Proofs.Batch.Outputs
import Storefront.Proofs.Batch.Verdict
import Storefront.Proofs.Batch.WholeRun

/-! A run that is made again. When outputs and sources lie in different directories, the second run
finds what the first one found, fails where it failed, and writes what stands there already. -/

namespace Storefront

open FileTree

structure Apart (settings : ScreenshotSettings) (t : FileTree) (names : List String)
    (l l' : Location) : Prop where
  linkFree : t.LinkFree
  sources : t.folder settings.inputDir = .ok l
  outputs : t.folder settings.outputDir = .ok l'
  ne : l ≠ l'
  entryName : ∀ name ∈ names, IsEntryName name

section

variable [Codecs]

namespace BatchState

variable {settings : ScreenshotSettings} {b : BatchState} {t : FileTree} {files : List Path}

theorem course_of_steps
    (houtcome : ∀ i src, files[i]? = some src →
      (step settings ⟨(b.after settings (files.take i)).claims, t⟩ src).1 =
        ((b.after settings (files.take i)).step settings src).1)
    (htree : ∀ i src, files[i]? = some src →
      (step settings ⟨(b.after settings (files.take i)).claims, t⟩ src).2.tree = t) :
    course settings ⟨b.claims, t⟩ files =
      ((b.course settings files).1, ⟨(b.after settings files).claims, t⟩) := by
  induction files generalizing b with
  | nil => rfl
  | cons src files ih =>
    have hclaims : (step settings ⟨b.claims, t⟩ src).2.claims = (b.step settings src).2.claims := by
      rw [claims_step, claims_step]
    have hsame : (step settings ⟨b.claims, t⟩ src).2.tree = t := htree 0 src rfl
    have hnext : (step settings ⟨b.claims, t⟩ src).2 = ⟨(b.step settings src).2.claims, t⟩ :=
      calc (step settings ⟨b.claims, t⟩ src).2
        _ = ⟨(step settings ⟨b.claims, t⟩ src).2.claims,
              (step settings ⟨b.claims, t⟩ src).2.tree⟩ := rfl
        _ = ⟨(b.step settings src).2.claims, t⟩ := by rw [hclaims, hsame]
    have hrest := ih (b := (b.step settings src).2) (fun i src' hi => houtcome (i + 1) src' hi)
      fun i src' hi => htree (i + 1) src' hi
    have hfirst := houtcome 0 src rfl
    simp only [List.take_zero, after_nil] at hfirst
    simp only [course, hnext, hrest, hfirst]
    rfl

end BatchState

namespace Apart

variable {settings : ScreenshotSettings} {t : FileTree} {names : List String} {l l' : Location}
  {name : String} {i : Nat}

abbrev batch (settings : ScreenshotSettings) (t : FileTree) (files : List Path) : BatchState :=
  BatchState.after settings ⟨[], t⟩ files

theorem linkFree_batch (h : Apart settings t names l l') (files : List Path) :
    (batch settings t files).tree.LinkFree :=
  BatchState.linkFree_after (b := ⟨[], t⟩) h.linkFree files

theorem keepsDirs_batch (h : Apart settings t names l l') (files : List Path) :
    t.KeepsDirs (batch settings t files).tree :=
  (BatchState.sameDirs_after (b := ⟨[], t⟩) h.linkFree files).1

theorem node?_batch (h : Apart settings t names l l') (files : List Path) (name : String) :
    (batch settings t files).tree.node? (name :: l) = t.node? (name :: l) := by
  apply BatchState.node?_after (b := ⟨[], t⟩) h.linkFree
  intro outcome ho output hout htarget
  obtain ⟨former, -, hformer, rfl, -⟩ := BatchState.name_of_course ho hout
  obtain ⟨d, hd, hk⟩ := (target?_join_eq_some_iff h.linkFree hformer).1 htarget
  obtain rfl : l' = d := Except.ok.inj (h.outputs.symm.trans hd.folder)
  exact h.ne (List.cons.inj hk).2

theorem read_batch (h : Apart settings t names l l') (hname : name ∈ names) (files : List Path) :
    (batch settings t files).tree.read (settings.inputDir.join name) =
      t.read (settings.inputDir.join name) := by
  apply read_congr
  apply lookup_join_congr h.linkFree (h.linkFree_batch files) (h.entryName name hname) h.sources
  · exact (h.keepsDirs_batch files).folder h.sources
  · exact h.node?_batch files name

abbrev final (settings : ScreenshotSettings) (t : FileTree) (names : List String) : FileTree :=
  (batch settings t (names.map settings.inputDir.join)).tree

theorem read_final (h : Apart settings t names l l') (hname : name ∈ names) (files : List Path) :
    (final settings t names).read (settings.inputDir.join name) =
      (batch settings t files).tree.read (settings.inputDir.join name) := by
  rw [h.read_batch hname, h.read_batch hname]

theorem outcome_again (h : Apart settings t names l l') (hi : names[i]? = some name) :
    let b := batch settings t ((names.map settings.inputDir.join).take i)
    (BatchState.step settings ⟨b.claims, final settings t names⟩
      (settings.inputDir.join name)).1 = (b.step settings (settings.inputDir.join name)).1 := by
  intro b
  have hlater : final settings t names =
      (b.after settings ((names.map settings.inputDir.join).drop i)).tree := by
    rw [← BatchState.after_append, List.take_append_drop]
  refine BatchState.outcome_step_congr (b := b) rfl ?_ ?_
  · exact h.read_final (List.mem_of_getElem? hi) _
  · intro output ho
    show (final settings t names).writeFault? output = _
    rw [hlater]
    exact BatchState.writeFault?_after (h.linkFree_batch _) ho _

theorem tree_again (h : Apart settings t names l l') (hi : names[i]? = some name) :
    let b := batch settings t ((names.map settings.inputDir.join).take i)
    (BatchState.step settings ⟨b.claims, final settings t names⟩
      (settings.inputDir.join name)).2.tree = final settings t names := by
  intro b
  have houtcome := h.outcome_again hi
  have hlf := h.linkFree_batch (names.map settings.inputDir.join)
  rcases ho : (BatchState.step settings ⟨b.claims, final settings t names⟩
    (settings.inputDir.join name)).1.output? with - | output
  · exact BatchState.tree_step_of_failed ho
  · obtain ⟨k, n, file, htarget, hk, -, hprep, htree, -⟩ :=
      BatchState.put_of_step (b := ⟨b.claims, final settings t names⟩) hlf ho
    have hsrc : (names.map settings.inputDir.join)[i]? = some (settings.inputDir.join name) := by
      rw [List.getElem?_map, hi]
      rfl
    have hfirst : (BatchState.course settings ⟨[], t⟩ (names.map settings.inputDir.join)).1[i]? =
        some (b.step settings (settings.inputDir.join name)).1 := by
      rw [BatchState.getElem?_course, hsrc]
      rfl
    rw [houtcome] at ho
    obtain ⟨former, d, n', file', -, hformer, rfl, hleads, hprep', hnode⟩ :=
      BatchState.written_course (b := ⟨[], t⟩) h.linkFree hfirst ho
    rw [BatchState.source_step, ← h.read_final (List.mem_of_getElem? hi), hprep] at hprep'
    obtain ⟨-, rfl⟩ := Prod.mk.inj (Except.ok.inj hprep')
    obtain rfl : outputName former :: d = k :=
      Option.some.inj (((target?_join_eq_some_iff hlf hformer).2 ⟨d, hleads, rfl⟩).symm.trans htarget)
    rw [htree]
    exact put_of_node? hk hnode

theorem course_again (h : Apart settings t names l l') :
    BatchState.course settings ⟨[], final settings t names⟩ (names.map settings.inputDir.join) =
      ((BatchState.course settings ⟨[], t⟩ (names.map settings.inputDir.join)).1,
        ⟨(batch settings t (names.map settings.inputDir.join)).claims, final settings t names⟩) := by
  apply BatchState.course_of_steps (b := ⟨[], t⟩)
  · intro i src hsrc
    rw [List.getElem?_map, Option.map_eq_some_iff] at hsrc
    obtain ⟨name, hi, rfl⟩ := hsrc
    exact h.outcome_again hi
  · intro i src hsrc
    rw [List.getElem?_map, Option.map_eq_some_iff] at hsrc
    obtain ⟨name, hi, rfl⟩ := hsrc
    exact h.tree_again hi

end Apart

theorem apart_of_runScreenshots {filter : Log.Filter} {observers : Observers (StateM Session)}
    (ho : observers.LookOn) {settings : ScreenshotSettings} {s s' : Session} {report : BatchReport}
    (hwf : s.tree.WellFormed) (hlf : s.tree.LinkFree)
    (hrun : (runScreenshots (Session.host filter) observers settings).run s = (.ok report, s'))
    (hout : s'.tree.isDirectory settings.outputDir = true)
    (hne : s'.tree.lookup settings.inputDir ≠ s'.tree.lookup settings.outputDir) :
    ∃ t names l l', Apart settings t names l l' ∧ s'.tree = Apart.final settings t names ∧
      report.outcomes =
        (BatchState.course settings ⟨[], t⟩ (names.map settings.inputDir.join)).1 ∧
      s'.tree.listImages settings.inputDir settings.extensions =
        .ok (names.map settings.inputDir.join) ∧
      s'.tree.createDirs settings.outputDir = (.ok (), s'.tree) := by
  obtain ⟨files, hlist, -, houtcomes, htree⟩ := Session.course_of_runScreenshots filter ho hrun
  have hgrows := grows_createDirs s.tree settings.outputDir
  generalize (s.tree.createDirs settings.outputDir).2 = t at hgrows houtcomes htree
  have hlf₁ : t.LinkFree := hgrows.linkFree hlf
  have hsame : t.SameDirs s'.tree := htree ▸ BatchState.sameDirs_after (b := ⟨[], t⟩) hlf₁ files
  have hlf₂ : s'.tree.LinkFree := htree ▸ BatchState.linkFree_after (b := ⟨[], t⟩) hlf₁ files
  have hdistinct : (s'.tree.entries.map (·.1)).Nodup := htree ▸
    BatchState.distinct_after settings (b := ⟨[], t⟩) hlf₁ (hgrows.distinct hwf.distinct) files
  -- The directories of the sources and of the outputs are the same from the listing on.
  obtain ⟨l, hin⟩ := lookup_of_listImages hlist
  obtain ⟨l', hout⟩ := isDirectory_iff.1 hout
  have hin₂ : s'.tree.lookup settings.inputDir = .ok (l, .directory) :=
    (hgrows.keepsDirs.trans hsame.1).lookup hlf hlf₂ hin
  have hll : l ≠ l' := by
    rintro rfl
    exact hne (hin₂.trans hout.symm)
  obtain ⟨names, hlisted, -, hnames⟩ := listed_of_lookup hlf hwf.distinct hin settings.extensions
  obtain rfl : files = names.map settings.inputDir.join := Except.ok.inj (hlist.symm.trans hlisted)
  have hapart : Apart settings t names l l' := by
    refine ⟨hlf₁, ?_, ?_, hll, fun name hname => ?_⟩
    · exact hgrows.keepsDirs.folder (folder_of_lookup hlf hin).1
    · exact hsame.2.folder (folder_of_lookup hlf₂ hout).1
    · obtain ⟨-, c, hc⟩ := (hnames name).1 hname
      exact hwf.isEntryName hc
  refine ⟨t, names, l, l', hapart, htree, houtcomes, ?_, createDirs_of_lookup hlf₂ hout⟩
  rw [← hlist]
  apply listImages_congr hlf hlf₂ hwf.distinct hdistinct hin hin₂
  intro name
  rw [htree, hapart.node?_batch]
  simp only [hgrows.node?_eq_file_iff]

/-- A run that is made again, when its outputs do not lie among its sources, gives the same outcomes
and leaves every file as it is. -/
theorem repeat_runScreenshots (filter filter' : Log.Filter)
    (observers observers' : Observers (StateM Session)) (ho : observers.LookOn)
    (ho' : observers'.LookOn) (settings : ScreenshotSettings) (s s' : Session) (report : BatchReport)
    (hwf : s.tree.WellFormed) (hlf : s.tree.LinkFree)
    (hrun : (runScreenshots (Session.host filter) observers settings).run s = (.ok report, s'))
    (hout : s'.tree.isDirectory settings.outputDir = true)
    (hne : s'.tree.lookup settings.inputDir ≠ s'.tree.lookup settings.outputDir) :
    ∃ report' s'', (runScreenshots (Session.host filter') observers' settings).run s' =
        (.ok report', s'') ∧
      report'.outcomes = report.outcomes ∧ s''.tree = s'.tree := by
  obtain ⟨t, names, l, l', hapart, htree, houtcomes, hlist, hcreate⟩ :=
    apart_of_runScreenshots ho hwf hlf hrun hout hne
  have hagain := hapart.course_again
  rw [← htree] at hagain
  obtain ⟨s₁, h₁, hrun'⟩ :=
    Session.runScreenshots_of_ok filter' observers' settings hlist (congrArg Prod.fst hcreate)
  rw [hcreate] at h₁
  refine ⟨_, _, hrun', ?_, ?_⟩
  · rw [Session.outcomes_normalizeBatch filter' s₁ ho', h₁, hagain, houtcomes]
  · rw [Session.tree_normalizeBatch filter' s₁ ho', h₁, BatchState.after, hagain]

end

theorem FileTree.listImages_twoPictures :
    twoPictures.listImages ⟨"in"⟩ ["png"] = .ok [⟨"in/a.png"⟩, ⟨"in/b.png"⟩] := by
  have hes : twoPictures.dirEntries ⟨"in"⟩ = .ok [⟨"a.png", .file⟩, ⟨"b.png", .file⟩] := by
    decide +kernel
  rw [listImages, if_pos (by decide +kernel), hes]
  simp only [Scan.paths, Scan.sorted]
  rw [List.mergeSort_of_pairwise (by decide +kernel)]
  decide +kernel

/-- Outputs go into a directory among the sources, which is named like one of them. -/
def nestedSettings : ScreenshotSettings :=
  { twoPicturesSettings with outputDir := ⟨"in/out.png"⟩ }

def nestedCourse : List ItemOutcome × BatchState :=
  BatchState.course nestedSettings ⟨[], (FileTree.twoPictures.createDirs ⟨"in/out.png"⟩).2⟩
    [⟨"in/a.png"⟩, ⟨"in/b.png"⟩]

theorem end_nestedCourse :
    nestedCourse.1.map (·.output?) = [some ⟨"in/out.png/a.png"⟩, none] ∧
      nestedCourse.2.tree.isDirectory ⟨"in/out.png"⟩ = true ∧
      (nestedCourse.2.tree.lookup ⟨"in"⟩).map Prod.fst ≠
        (nestedCourse.2.tree.lookup ⟨"in/out.png"⟩).map Prod.fst := by
  decide +kernel

theorem repeat_nested :
    ∃ report s' report' s'',
      (runScreenshots (Session.host []) Session.observers nestedSettings).run
        (Session.start FileTree.twoPictures) = (.ok report, s') ∧
      report.outcomes.map (·.output?) = [some ⟨"in/out.png/a.png"⟩, none] ∧
      s'.tree.isDirectory ⟨"in/out.png"⟩ = true ∧
      s'.tree.lookup ⟨"in"⟩ ≠ s'.tree.lookup ⟨"in/out.png"⟩ ∧
      (runScreenshots (Session.host []) {} nestedSettings).run s' = (.ok report', s'') ∧
      report'.outcomes = report.outcomes ∧ s''.tree = s'.tree := by
  obtain ⟨s₁, h₁, hrun⟩ := Session.runScreenshots_of_ok [] (s := Session.start FileTree.twoPictures)
    Session.observers nestedSettings listImages_twoPictures (by decide +kernel)
  have houtcomes := Session.outcomes_normalizeBatch [] s₁ Session.lookOn_observers nestedSettings
    [⟨"in/a.png"⟩, ⟨"in/b.png"⟩]
  have htree := Session.tree_normalizeBatch [] s₁ Session.lookOn_observers nestedSettings
    [⟨"in/a.png"⟩, ⟨"in/b.png"⟩]
  rw [h₁] at houtcomes htree
  generalize (normalizeBatch (Session.host []) Session.observers nestedSettings
    [⟨"in/a.png"⟩, ⟨"in/b.png"⟩]).run s₁ = run at hrun houtcomes htree
  obtain ⟨report, s'⟩ := run
  have hoc : report.outcomes = nestedCourse.1 := houtcomes
  have htr : s'.tree = nestedCourse.2.tree := htree
  obtain ⟨hends, hdir, hplaces⟩ := end_nestedCourse
  have hne : s'.tree.lookup ⟨"in"⟩ ≠ s'.tree.lookup ⟨"in/out.png"⟩ := by
    intro h
    rw [htr] at h
    exact hplaces (congrArg (·.map Prod.fst) h)
  obtain ⟨report', s'', hrun', hsame, hstill⟩ := repeat_runScreenshots [] [] Session.observers {}
    Session.lookOn_observers Observers.LookOn.none nestedSettings (Session.start FileTree.twoPictures)
    s' report FileTree.wellFormed_twoPictures FileTree.linkFree_twoPictures hrun (htr ▸ hdir) hne
  exact ⟨report, s', report', s'', hrun, hoc ▸ hends, htr ▸ hdir, hne, hrun', hsame, hstill⟩

end Storefront
