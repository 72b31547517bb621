import Storefront.Proofs.Batch.Outputs
import Storefront.Proofs.Batch.WholeRun

/-! What a run does to the files it reads. Outputs are kept apart from each other and not from
sources: in a directory that is both, a source can come to lie under the output of another one. -/

namespace Storefront

open FileTree

def ItemOutcome.WritesAt (t : FileTree) (k : Location) (outcome : ItemOutcome) : Prop :=
  ∃ output, outcome.output? = some output ∧ t.target? output = some k

structure Listed (settings : ScreenshotSettings) (t t₁ : FileTree) (names : List String)
    (l : Location) : Prop where
  linkFree : t.LinkFree
  grows : t.Grows t₁
  folder : t.folder settings.inputDir = .ok l
  nodup : names.Nodup
  entryName : ∀ name ∈ names, IsEntryName name
  standing : ∀ name ∈ names, ∃ c, t.node? (name :: l) = some (.file c)

theorem listed_of_listImages {settings : ScreenshotSettings} {t t₁ : FileTree} {files : List Path}
    (hwf : t.WellFormed) (hlf : t.LinkFree) (hg : t.Grows t₁)
    (hlist : t.listImages settings.inputDir settings.extensions = .ok files) :
    ∃ names l, files = names.map settings.inputDir.join ∧ Listed settings t t₁ names l := by
  obtain ⟨l, names, hfolder, -, rfl, hnodup, hnames⟩ := names_of_listImages hlf hwf.distinct hlist
  refine ⟨names, l, rfl, hlf, hg, hfolder, hnodup, fun name hn => ?_, fun name hn => ?_⟩
  · obtain ⟨-, c, hc⟩ := (hnames name).1 hn
    exact hwf.isEntryName hc
  · exact ((hnames name).1 hn).2

def reportedOutcomes : Except RunError BatchReport → List ItemOutcome
  | .ok report => report.outcomes
  | .error _ => []

section

variable [Codecs]

namespace Listed

variable {settings : ScreenshotSettings} {t t₁ : FileTree} {names : List String} {l : Location}
  {i j : Nat} {name : String} {outcome : ItemOutcome}

abbrev outcomes (settings : ScreenshotSettings) (t₁ : FileTree) (names : List String) :
    List ItemOutcome :=
  (BatchState.course settings ⟨[], t₁⟩ (names.map settings.inputDir.join)).1

abbrev tree (settings : ScreenshotSettings) (t₁ : FileTree) (names : List String) : FileTree :=
  (BatchState.after settings ⟨[], t₁⟩ (names.map settings.inputDir.join)).tree

theorem linkFree_after (h : Listed settings t t₁ names l) (files : List Path) :
    (BatchState.after settings ⟨[], t₁⟩ files).tree.LinkFree :=
  BatchState.linkFree_after (b := ⟨[], t₁⟩) (h.grows.linkFree h.linkFree) files

theorem sameDirs_after (h : Listed settings t t₁ names l) (files : List Path) :
    t₁.SameDirs (BatchState.after settings ⟨[], t₁⟩ files).tree :=
  BatchState.sameDirs_after (b := ⟨[], t₁⟩) (h.grows.linkFree h.linkFree) files

theorem source (h : Listed settings t t₁ names l) (hj : (outcomes settings t₁ names)[j]? = some outcome) :
    ∃ former, names[j]? = some former ∧ IsEntryName former ∧
      outcome.source = settings.inputDir.join former := by
  obtain ⟨hsrc, -, -⟩ := BatchState.split_of_course outcome.source hj rfl
  rw [List.getElem?_map, Option.map_eq_some_iff] at hsrc
  obtain ⟨former, hformer, he⟩ := hsrc
  exact ⟨former, hformer, h.entryName former (List.mem_of_getElem? hformer), he.symm⟩

theorem outputName_of_writesAt (h : Listed settings t t₁ names l)
    (hj : (outcomes settings t₁ names)[j]? = some outcome)
    (hw : outcome.WritesAt (tree settings t₁ names) (name :: l)) :
    ∃ former, names[j]? = some former ∧ outcome.source = settings.inputDir.join former ∧
      outputName former = name ∧ (tree settings t₁ names).folder settings.outputDir = .ok l ∧
      outcome.output? = some (settings.outputDir.join name) := by
  obtain ⟨output, ho, hk⟩ := hw
  obtain ⟨former, hformer, hentry, hsrc⟩ := h.source hj
  have hlf₁ := h.grows.linkFree h.linkFree
  obtain ⟨name', l', n, file, hname', hout, rfl, hl, -⟩ := BatchState.written_course hlf₁ hj ho
  rw [hsrc, Path.fileName?_join _ hentry] at hname'
  obtain rfl := Option.some.inj hname'
  obtain ⟨l₂, hl₂, he⟩ :=
    (target?_join_eq_some_iff (h.linkFree_after _) hout).1 hk
  obtain ⟨rfl, rfl⟩ := List.cons.inj he
  exact ⟨former, hformer, hsrc, rfl, hl₂.folder, ho⟩

theorem earlier_of_writesAt (h : Listed settings t t₁ names l) (hij : j ≠ i)
    (hi : names[i]? = some name) (hj : (outcomes settings t₁ names)[j]? = some outcome)
    (hw : outcome.WritesAt (tree settings t₁ names) (name :: l)) :
    ∃ former, j < i ∧ names[j]? = some former ∧ outcome.source = settings.inputDir.join former ∧
      ¬HasPngExtension former ∧ outputName former = name ∧
      (tree settings t₁ names).folder settings.outputDir = .ok l ∧
      outcome.output? = some (settings.outputDir.join name) := by
  obtain ⟨former, hformer, hsrc, rfl, hfolder, ho⟩ := h.outputName_of_writesAt hj hw
  have hentry := h.entryName _ (List.mem_of_getElem? hi)
  have hstable : outputName (outputName former) = outputName former :=
    outputName_outputName (h.entryName _ (List.mem_of_getElem? hformer)).1
  refine ⟨former, ?_, hformer, hsrc, fun hpng => hij ?_, rfl, hfolder, ho⟩
  · -- Were it later, it would have found its key claimed.
    rcases Nat.lt_or_gt_of_ne hij with hlt | hlt
    · exact hlt
    · obtain ⟨-, -, -, hfree⟩ := BatchState.output_course hj ho
      have hfile : (names.map settings.inputDir.join)[i]? =
          some (settings.inputDir.join (outputName former)) := by
        rw [List.getElem?_map, hi]
        rfl
      have hpath := outputPath?_join settings.inputDir settings.outputDir hentry
      rw [hstable] at hpath
      exact absurd (keyAt?_eq_some hfile hpath) (hfree i hlt)
  · rw [outputName_of_hasPngExtension hpng, ← hformer] at hi
    exact (List.getElem?_inj (List.getElem?_eq_some_iff.1 hformer).1 h.nodup).1 hi.symm

theorem refused_of_writesAt (h : Listed settings t t₁ names l) (hij : j ≠ i)
    (hi : names[i]? = some name) (hj : (outcomes settings t₁ names)[j]? = some outcome)
    (hw : outcome.WritesAt (tree settings t₁ names) (name :: l)) :
    (outcomes settings t₁ names)[i]? = some (.failed (settings.inputDir.join name)
      ("output name collides with " ++ outcome.source.displayName)) := by
  obtain ⟨former, hlt, hformer, -, -, rfl, -, ho⟩ := h.earlier_of_writesAt hij hi hj hw
  obtain ⟨src, hfilej, hpathj, hfree⟩ := BatchState.output_course hj ho
  have hstable : outputName (outputName former) = outputName former :=
    outputName_outputName (h.entryName _ (List.mem_of_getElem? hformer)).1
  have hfilei : (names.map settings.inputDir.join)[i]? =
      some (settings.inputDir.join (outputName former)) := by
    rw [List.getElem?_map, hi]
    rfl
  have hpathi := outputPath?_join settings.inputDir settings.outputDir
    (h.entryName _ (List.mem_of_getElem? hi))
  rw [hstable] at hpathi
  -- The name is its own output name, so both items have one key.
  have hkeyi := keyAt?_eq_some hfilei hpathi
  have hkeyj := keyAt?_eq_some hfilej hpathj
  obtain ⟨hsrcj, -, -⟩ := BatchState.split_of_course outcome.source hj rfl
  refine BatchState.collides_course.2 ⟨j, outcome.source, ⟨hlt, ⟨_, hkeyj, hkeyi⟩, ?_⟩, hfilei, hsrcj, rfl⟩
  intro k hk hsame
  exact hfree k hk ((sameKey_iff hkeyi).1 hsame)

theorem read_of_not_png (h : Listed settings t t₁ names l) (hname : name ∈ names)
    (hpng : ¬HasPngExtension name) (files : List Path) :
    (BatchState.after settings ⟨[], t₁⟩ files).tree.read (settings.inputDir.join name) =
      t.read (settings.inputDir.join name) := by
  have hlf₁ := h.grows.linkFree h.linkFree
  have hkeeps := (h.sameDirs_after files).1
  obtain ⟨c, hc⟩ := h.standing name hname
  apply read_congr
  apply lookup_join_congr h.linkFree (h.linkFree_after files) (h.entryName name hname) h.folder
    ((h.grows.keepsDirs.trans hkeeps).folder h.folder)
  rw [BatchState.node?_after (b := ⟨[], t₁⟩) hlf₁, h.grows.node? hc, hc]
  intro outcome ho output hout htarget
  obtain ⟨other, hother, hentry, rfl, -⟩ := BatchState.name_of_course ho hout
  obtain ⟨l', -, he⟩ := (target?_join_eq_some_iff hlf₁ hentry).1 htarget
  rw [(List.cons.inj he).1] at hpng
  exact hpng (hasPngExtension_outputName (Path.isEntryName_of_fileName? hother).1)

theorem node?_of_writesAt (h : Listed settings t t₁ names l) (hij : j ≠ i)
    (hi : names[i]? = some name) (hj : (outcomes settings t₁ names)[j]? = some outcome)
    (hw : outcome.WritesAt (tree settings t₁ names) (name :: l)) :
    ∃ n file, preparePicture settings.canvas outcome.source (t.read outcome.source) = .ok (n, file) ∧
      (tree settings t₁ names).node? (name :: l) = some (.file file) := by
  obtain ⟨former, -, hformer, hsrc, hpng, rfl, hfolder, ho⟩ := h.earlier_of_writesAt hij hi hj hw
  have hmem := List.mem_of_getElem? hformer
  have hentry := h.entryName former hmem
  have hlf₁ := h.grows.linkFree h.linkFree
  obtain ⟨name', l', n, file, hname', -, -, hl, hprep, hnode⟩ :=
    BatchState.written_course hlf₁ hj ho
  rw [hsrc, Path.fileName?_join _ hentry] at hname'
  obtain rfl := Option.some.inj hname'
  obtain rfl : l = l' := Except.ok.inj (hfolder.symm.trans hl.folder)
  rw [hsrc, h.read_of_not_png hmem hpng, ← hsrc] at hprep
  exact ⟨n, file, hprep, hnode⟩

end Listed

/-- What becomes of the file that item `i` of a run was made from, the entry `name` of the
directory at `l`. -/
structure SourceFate (settings : ScreenshotSettings) (t t' : FileTree) (outcomes : List ItemOutcome)
    (i : Nat) (name : String) (l : Location) : Prop where
  stands : t.folder settings.inputDir = .ok l ∧ ∃ c, t.node? (name :: l) = some (.file c)
  kept : (∀ outcome ∈ outcomes, ¬outcome.WritesAt t' (name :: l)) →
    t'.node? (name :: l) = t.node? (name :: l)
  covered : ∀ j outcome, j ≠ i → outcomes[j]? = some outcome → outcome.WritesAt t' (name :: l) →
    outcomes[i]? = some (.failed (settings.inputDir.join name)
      ("output name collides with " ++ outcome.source.displayName)) ∧
    ∃ n file, preparePicture settings.canvas outcome.source (t.read outcome.source) = .ok (n, file) ∧
      t'.node? (name :: l) = some (.file file)
  covered_iff :
    (∃ j outcome, j ≠ i ∧ outcomes[j]? = some outcome ∧ outcome.WritesAt t' (name :: l)) ↔
      t'.folder settings.outputDir = .ok l ∧ ∃ j outcome former, j < i ∧
        outcomes[j]? = some outcome ∧ outcome.isSuccess ∧
        outcome.source.fileName? = some former ∧ ¬HasPngExtension former ∧ outputName former = name

theorem Listed.sourceFate {settings : ScreenshotSettings} {t t₁ : FileTree} {names : List String}
    {l : Location} (h : Listed settings t t₁ names l) {i : Nat} {name : String}
    (hi : names[i]? = some name) :
    SourceFate settings t (tree settings t₁ names) (outcomes settings t₁ names) i name l := by
  have hlf₁ := h.grows.linkFree h.linkFree
  have hlf₂ := h.linkFree_after (names.map settings.inputDir.join)
  have hsame := h.sameDirs_after (names.map settings.inputDir.join)
  obtain ⟨c, hc⟩ := h.standing name (List.mem_of_getElem? hi)
  refine ⟨⟨h.folder, c, hc⟩, ?_, ?_, ?_, ?_⟩
  · intro hnone
    rw [BatchState.node?_after (b := ⟨[], t₁⟩) hlf₁, h.grows.node? hc, hc]
    intro outcome ho output hout htarget
    obtain ⟨other, -, hentry, rfl, -⟩ := BatchState.name_of_course ho hout
    rw [← hsame.target?_join hlf₁ hlf₂ hentry] at htarget
    exact hnone outcome ho ⟨_, hout, htarget⟩
  · intro j outcome hij hj hw
    exact ⟨h.refused_of_writesAt hij hi hj hw, h.node?_of_writesAt hij hi hj hw⟩
  · rintro ⟨j, outcome, hij, hj, hw⟩
    obtain ⟨former, hlt, hformer, hsrc, hpng, hname, hfolder, ho⟩ :=
      h.earlier_of_writesAt hij hi hj hw
    have hentry := h.entryName former (List.mem_of_getElem? hformer)
    refine ⟨hfolder, j, outcome, former, hlt, hj, ?_, ?_, hpng, hname⟩
    · cases outcome with
      | normalized => rfl
      | failed => simp [ItemOutcome.output?] at ho
    · rw [hsrc, Path.fileName?_join _ hentry]
  · rintro ⟨hfolder, j, outcome, former, hlt, hj, hsuccess, hformer, -, rfl⟩
    obtain ⟨output, ho⟩ := ItemOutcome.exists_output hsuccess
    obtain ⟨name', l', n, file, hname', hentry, rfl, hl, -⟩ := BatchState.written_course hlf₁ hj ho
    obtain rfl := Option.some.inj (hformer.symm.trans hname')
    obtain rfl : l = l' := Except.ok.inj (hfolder.symm.trans hl.folder)
    exact ⟨j, outcome, Nat.ne_of_lt hlt, hj, _, ho,
      (target?_join_eq_some_iff hlf₂ hentry).2 ⟨l, hl, rfl⟩⟩

theorem Listed.sourceFate_nil {settings : ScreenshotSettings} {t t₁ : FileTree}
    {names : List String} {l : Location} (h : Listed settings t t₁ names l) {i : Nat} {name : String}
    (hi : names[i]? = some name) : SourceFate settings t t₁ [] i name l := by
  obtain ⟨c, hc⟩ := h.standing name (List.mem_of_getElem? hi)
  refine ⟨⟨h.folder, c, hc⟩, fun _ => ?_, fun j outcome _ hj => ?_, ?_⟩
  · rw [h.grows.node? hc, hc]
  · simp at hj
  · simp

/-- After a run each listed file is as it was, unless its own output was written over it, or the
output directory is the input directory and an earlier item of another extension was normalized
under its name. -/
theorem sourceFate_runScreenshots (filter : Log.Filter) (observers : Observers (StateM Session))
    (ho : observers.LookOn) (settings : ScreenshotSettings) (s s' : Session)
    (result : Except RunError BatchReport) (hwf : s.tree.WellFormed) (hlf : s.tree.LinkFree)
    (hrun : (runScreenshots (Session.host filter) observers settings).run s = (result, s')) :
    (∀ report, result = .ok report → s.tree.listImages settings.inputDir settings.extensions =
        .ok (report.outcomes.map (·.source))) ∧
      ∀ files, s.tree.listImages settings.inputDir settings.extensions = .ok files →
        ∀ (i : Nat) (src : Path), files[i]? = some src → ∃ name l,
          src = settings.inputDir.join name ∧
            SourceFate settings s.tree s'.tree (reportedOutcomes result) i name l := by
  rcases result with e | report
  · refine ⟨fun report h => by contradiction, ?_⟩
    intro files hlist i src hi
    have hgrows := Session.grows_of_runScreenshots filter hrun
    obtain ⟨names, l, rfl, hlisted⟩ := listed_of_listImages hwf hlf hgrows hlist
    rw [List.getElem?_map, Option.map_eq_some_iff] at hi
    obtain ⟨name, hname, rfl⟩ := hi
    exact ⟨name, l, rfl, hlisted.sourceFate_nil hname⟩
  · obtain ⟨files, hlist, -, houtcomes, htree⟩ := Session.course_of_runScreenshots filter ho hrun
    have hsources : report.outcomes.map (·.source) = files := by
      rw [houtcomes, BatchState.map_source_course]
    refine ⟨fun _ h => ?_, ?_⟩
    · obtain rfl := Except.ok.inj h
      rw [hlist, hsources]
    · intro files' hlist' i src hi
      obtain rfl := Except.ok.inj (hlist.symm.trans hlist')
      have hgrows := grows_createDirs s.tree settings.outputDir
      obtain ⟨names, l, rfl, hlisted⟩ := listed_of_listImages hwf hlf hgrows hlist
      rw [List.getElem?_map, Option.map_eq_some_iff] at hi
      obtain ⟨name, hname, rfl⟩ := hi
      refine ⟨name, l, rfl, ?_⟩
      rw [reportedOutcomes, houtcomes, htree]
      exact hlisted.sourceFate hname

end

namespace FileTree

def sameStems : FileTree where
  workDir := ["work"]
  entries :=
    [(["work"], .directory), (["in", "work"], .directory),
     (["a.apng", "in", "work"],
       .file (Png.pack (Png.fileParts (.ofFn ⟨1, 1⟩ fun _ _ => ⟨255, 0, 0⟩)))),
     (["a.png", "in", "work"],
       .file (Png.pack (Png.fileParts (.ofFn ⟨1, 1⟩ fun _ _ => ⟨0, 0, 255⟩))))]

theorem wellFormed_sameStems : sameStems.WellFormed where
  distinct := by decide
  named := by
    intro e he
    simp only [sameStems, List.mem_cons, List.not_mem_nil, or_false] at he
    obtain rfl | rfl | rfl | rfl := he
    · exact ⟨"work", [], rfl, by simp [IsEntryName], rfl⟩
    · exact ⟨"in", ["work"], rfl, by simp [IsEntryName], rfl⟩
    · exact ⟨"a.apng", ["in", "work"], rfl, by simp [IsEntryName], rfl⟩
    · exact ⟨"a.png", ["in", "work"], rfl, by simp [IsEntryName], rfl⟩

theorem linkFree_sameStems : sameStems.LinkFree := by
  simp [LinkFree, sameStems]

end FileTree

def inPlace : Settings where
  screenshots :=
    { ScreenshotSettings.default with
      inputDir := ⟨"in"⟩, outputDir := ⟨"in"⟩, targetWidth := 1, targetHeight := 1
      extensions := ["apng", "png"] }
  icons := IconSettings.default

theorem listImages_sameStems :
    FileTree.sameStems.listImages ⟨"in"⟩ ["apng", "png"] = .ok [⟨"in/a.apng"⟩, ⟨"in/a.png"⟩] := by
  have hes : FileTree.sameStems.dirEntries ⟨"in"⟩ = .ok [⟨"a.apng", .file⟩, ⟨"a.png", .file⟩] := by
    decide +kernel
  rw [FileTree.listImages, if_pos (by decide +kernel), hes]
  simp only [Scan.paths, Scan.sorted]
  rw [List.mergeSort_of_pairwise (by decide +kernel)]
  decide +kernel

/-- With settings that are accepted, a file whose item has failed is written over. -/
theorem failed_source_overwritten :
    inPlace.validate = .ok () ∧ sameStems.WellFormed ∧ sameStems.LinkFree ∧
      ∃ report s',
        (runScreenshots (Session.host []) Session.observers inPlace.screenshots).run
          (Session.start sameStems) = (.ok report, s') ∧
        report.outcomes[1]? = some (.failed ⟨"in/a.png"⟩ "output name collides with a.apng") ∧
        s'.tree.read ⟨"in/a.png"⟩ ≠ sameStems.read ⟨"in/a.png"⟩ := by
  refine ⟨by decide +kernel, wellFormed_sameStems, linkFree_sameStems, ?_⟩
  obtain ⟨s₁, h₁, hrun⟩ := Session.runScreenshots_of_ok [] (s := Session.start sameStems)
    Session.observers inPlace.screenshots listImages_sameStems (by decide +kernel)
  refine ⟨_, _, hrun, ?_, ?_⟩
  · rw [Session.outcomes_normalizeBatch [] s₁ Session.lookOn_observers, h₁]
    decide +kernel
  · rw [Session.tree_normalizeBatch [] s₁ Session.lookOn_observers, h₁]
    decide +kernel

theorem sourceFate_sameStems :
    ∃ report s',
      (runScreenshots (Session.host []) Session.observers inPlace.screenshots).run
        (Session.start sameStems) = (.ok report, s') ∧
      sameStems.listImages ⟨"in"⟩ ["apng", "png"] = .ok (report.outcomes.map (·.source)) ∧
      ∀ (i : Nat) (src : Path), [Path.mk "in/a.apng", ⟨"in/a.png"⟩][i]? = some src → ∃ name l,
        src = Path.join ⟨"in"⟩ name ∧
          SourceFate inPlace.screenshots sameStems s'.tree report.outcomes i name l := by
  obtain ⟨s₁, h₁, hrun⟩ := Session.runScreenshots_of_ok [] (s := Session.start sameStems)
    Session.observers inPlace.screenshots listImages_sameStems (by decide +kernel)
  obtain ⟨hsources, hfates⟩ := sourceFate_runScreenshots [] Session.observers
    Session.lookOn_observers inPlace.screenshots (Session.start sameStems) _ _ wellFormed_sameStems
    linkFree_sameStems hrun
  exact ⟨_, _, hrun, hsources _ rfl, hfates _ listImages_sameStems⟩

end Storefront
