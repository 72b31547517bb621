import Storefront.Proofs.Batch.Messages
import Storefront.Proofs.Batch.Telling
import Storefront.Proofs.Files.Scanning
import Storefront.Tool

/-! Runs that fail as a whole: what they fail of, and that they leave every file as it was. All
other runs end with a report on each file that was listed. -/

namespace Storefront

open FileTree

namespace Session

variable (filter : Log.Filter)

namespace Tells

theorem isDirectory (p : Path) : Tells ((host filter).isDirectory p) [] :=
  fun s => (List.append_nil s.told).symm

theorem entries (p : Path) : Tells ((host filter).entries p) [] :=
  fun s => (List.append_nil s.told).symm

theorem createDir (p : Path) : Tells ((host filter).createDir p) [] := by
  intro s
  rw [List.append_nil]
  show (change (s.tree.createDir p) s).2.told = s.told
  cases s.tree.createDir p <;> rfl

theorem settle (p : Path) (e : FileError) : Tells ((host filter).settle p e) [] := by
  unfold Host.settle
  apply (isDirectory filter p).quiet_bind
  intro there
  split <;> exact .pure _

theorem createDirsTo (depth : Nat) (p : Path) : Tells ((host filter).createDirsTo depth p) [] := by
  induction depth generalizing p with
  | zero =>
    unfold Host.createDirsTo
    split
    · exact .pure _
    · apply (createDir filter p).quiet_bind
      intro created
      rcases created with e | u
      · cases e with
        | notFound => exact .pure _
        | _ => exact settle filter p _
      · exact .pure _
  | succ depth ih =>
    unfold Host.createDirsTo
    split
    · exact .pure _
    · apply (createDir filter p).quiet_bind
      intro created
      rcases created with e | u
      · cases e with
        | notFound =>
          rcases p.parent? with - | above
          · exact .pure _
          · apply (ih above).quiet_bind
            intro made
            rcases made with e | u
            · exact .pure _
            · apply (createDir filter p).quiet_bind
              intro created
              rcases created with e | u
              · exact settle filter p e
              · exact .pure _
        | _ => exact settle filter p _
      · exact .pure _

theorem createDirs (p : Path) : Tells ((host filter).createDirs p) [] :=
  createDirsTo filter p.text.length p

theorem listImages (dir : Path) (extensions : List String) :
    Tells (listImages (host filter) dir extensions) [] := by
  unfold Storefront.listImages
  apply (isDirectory filter dir).quiet_bind
  intro there
  split
  · apply (entries filter dir).quiet_bind
    intro es
    rcases es with e | es
    · exact .pure _
    · exact (forM_log filter _).quiet_bind fun _ => .pure _
  · exact .pure _

end Tells

variable {filter} {s : Session} {settings : ScreenshotSettings} {dir : Path}

theorem run_listImages_of_not_directory (h : ¬∃ l, s.tree.lookup dir = .ok (l, .directory))
    (extensions : List String) :
    (listImages (host filter) dir extensions).run s = (.error (.missing dir), s) := by
  have hdir : s.tree.isDirectory dir = false := Bool.eq_false_iff.2 fun hd => h (isDirectory_iff.1 hd)
  have hasked : ((host filter).isDirectory dir).run s = (false, s) := by
    rw [← hdir]
    rfl
  unfold listImages
  rw [run_bind, hasked]
  rfl

theorem fileName?_of_listImages {files : List Path} {extensions : List String}
    (hwf : s.tree.WellFormed) (hlist : s.tree.listImages dir extensions = .ok files) :
    ∀ src ∈ files, src.fileName? ≠ none := by
  obtain ⟨l, hl⟩ := lookup_of_listImages hlist
  rw [listImages_of_lookup hl] at hlist
  obtain rfl := Except.ok.inj hlist
  intro src hsrc
  have hscanned : s.tree.Scanned dir l extensions _ := hwf.scanned (node?_of_lookup hl)
  obtain ⟨name, hname, rfl, -⟩ := (hscanned.mem_iff src).1 hsrc
  rw [Path.fileName?_join dir hname]
  simp

theorem run_load (filter : Log.Filter) (s : Session) :
    ((Settings.load (host filter)).run s).2 = s := by
  unfold Settings.load
  rw [run_bind]
  have hheld : ((host filter).holds Settings.fileName).run s =
      (s.tree.holds Settings.fileName, s) := rfl
  rw [hheld]
  split <;> rfl

section

variable [Codecs]

theorem run_of_not_directory (observers : Observers (StateM Session))
    (h : ¬∃ l, s.tree.lookup settings.inputDir = .ok (l, .directory)) :
    (runScreenshots (host filter) observers settings).run s =
      (.error (.scan settings.inputDir (.missing settings.inputDir)), s) := by
  unfold runScreenshots
  rw [run_bind, run_listImages_of_not_directory h]
  rfl

variable (filter) in
theorem run_of_listed {files : List Path}
    (hlist : s.tree.listImages settings.inputDir settings.extensions = .ok files) :
    ∃ s', s'.tree = (s.tree.createDirs settings.outputDir).2 ∧ s'.told = s.told ∧
      ∀ observers, (runScreenshots (host filter) observers settings).run s =
        match (s.tree.createDirs settings.outputDir).1 with
        | .error e => (.error (.outputDir settings.outputDir e), s')
        | .ok () =>
          (.ok ((normalizeBatch (host filter) observers settings files).run s').1,
            ((normalizeBatch (host filter) observers settings files).run s').2) := by
  have hlisting := yields_listImages filter s settings.inputDir settings.extensions
  have htold₁ := Tells.listImages filter settings.inputDir settings.extensions s
  rcases h₁ : (listImages (host filter) settings.inputDir settings.extensions).run s with ⟨a, s₁⟩
  rw [h₁, List.append_nil] at htold₁
  obtain ⟨rfl, ht₁⟩ : a = .ok files ∧ s₁.tree = s.tree := by rwa [hlist, Yields, h₁] at hlisting
  let found : Log.Record :=
    .of .info .batch ("Found " ++ files.length.repr ++ " screenshots to process")
  have hlog := yields_log filter s₁ found
  have htold₂ := Tells.log filter found s₁
  rcases h₂ : ((host filter).log found).run s₁ with ⟨u, s₂⟩
  rw [h₂, List.append_nil] at htold₂
  have ht₂ : s₂.tree = s.tree := by
    rw [Yields, h₂] at hlog
    exact hlog.2.trans ht₁
  have hcreating := yields_createDirs filter s₂ settings.outputDir
  have htold₃ := Tells.createDirs filter settings.outputDir s₂
  rcases h₃ : ((host filter).createDirs settings.outputDir).run s₂ with ⟨made, s₃⟩
  rw [h₃, List.append_nil] at htold₃
  obtain ⟨hmade, ht₃⟩ : made = (s.tree.createDirs settings.outputDir).1 ∧
      s₃.tree = (s.tree.createDirs settings.outputDir).2 := by
    rwa [ht₂, Yields, h₃] at hcreating
  refine ⟨s₃, ht₃, htold₃.trans (htold₂.trans htold₁), fun observers => ?_⟩
  unfold runScreenshots
  rw [← hmade, run_bind, h₁]
  simp only [run_bind]
  rw [h₂, h₃]
  rcases made with e | u <;> rfl

theorem runItem_ne_noFileName (claims : Claims) {src : Path} (hsrc : src.fileName? ≠ none)
    (t : Session) (src' : Path) : ((runItem (host filter) settings claims src).run t).1 ≠
      .failed src' ItemFault.noFileName.message := by
  rcases hclaim : claims.claim src settings.outputDir with fault | ⟨output, claims'⟩
  · rw [runItem_refused hclaim]
    intro h
    obtain rfl := ItemFault.eq_noFileName (ItemOutcome.failed.inj h).2
    have hnone := Claims.claim_eq_noFileName_iff.1 hclaim
    rw [outputPath?_eq, Option.map_eq_none_iff] at hnone
    exact hsrc hnone
  · obtain ⟨r, hr⟩ : ∃ r, ((runItem (host filter) settings claims src).run t).1 =
        .ofResult src output r := runItem_granted hclaim t
    rw [hr]
    rcases r with e | n
    · intro h
      exact e.message_ne_fault _ (ItemOutcome.failed.inj h).2
    · simp [ItemOutcome.ofResult]

theorem outcomes_of_named (observers : Observers (StateM Session)) {files : List Path}
    (hfiles : ∀ src ∈ files, src.fileName? ≠ none) (t : Session) :
    let report := ((normalizeBatch (host filter) observers settings files).run t).1
    report.outcomes.map (·.source) = files ∧
      ∀ outcome ∈ report.outcomes, ∀ src, outcome ≠ .failed src ItemFault.noFileName.message := by
  intro report
  have hitem (j : Nat) : report.outcomes[j]? = files[j]?.map fun src =>
      ((runItem (host filter) settings (Claims.after settings.outputDir [] (files.take j)) src).run
        (runItems (host filter) observers settings files.length (files.take j) t).2).1 :=
    getElem?_runItems (host filter) observers settings files.length files t j
  constructor
  · apply List.ext_getElem?
    intro j
    rw [List.getElem?_map, hitem]
    rcases files[j]? with - | src
    · rfl
    · exact congrArg some (source_runItem filter settings _ src _)
  · intro outcome houtcome src'
    obtain ⟨j, hj⟩ := List.mem_iff_getElem?.1 houtcome
    obtain ⟨src, hsrc, rfl⟩ := Option.map_eq_some_iff.1 ((hitem j).symm.trans hj)
    exact runItem_ne_noFileName _ (hfiles src (List.mem_of_getElem? hsrc)) _ src'

/-- What a run does in each of its phases: without an input directory nothing, without an output
directory nothing to any file, and then it reports on each file that was listed before. -/
structure EndsWhole (filter : Log.Filter) (settings : ScreenshotSettings) (s : Session) : Prop where
  noInput : (¬∃ l, s.tree.lookup settings.inputDir = .ok (l, .directory)) →
    ∃ e, ∀ observers, (runScreenshots (host filter) observers settings).run s = (.error e, s)
  noOutput : ∀ l e, s.tree.lookup settings.inputDir = .ok (l, .directory) →
    (((host filter).createDirs settings.outputDir).run s).1 = .error e →
    ∃ e s', (∀ observers, (runScreenshots (host filter) observers settings).run s = (.error e, s')) ∧
      s'.told = s.told ∧ s.tree.Grows s'.tree ∧
      ∀ k c, s'.tree.node? k = some (.file c) ↔ s.tree.node? k = some (.file c)
  otherwise : ∀ l, s.tree.lookup settings.inputDir = .ok (l, .directory) →
    (((host filter).createDirs settings.outputDir).run s).1 = .ok () →
    ∃ files, ((listImages (host filter) settings.inputDir settings.extensions).run s).1 = .ok files ∧
      ∀ observers, ∃ report s',
        (runScreenshots (host filter) observers settings).run s = (.ok report, s') ∧
        report.outcomes.map (·.source) = files ∧
        ∀ outcome ∈ report.outcomes, ∀ src, outcome ≠ .failed src "source path has no file name"

theorem endsWhole (filter : Log.Filter) (settings : ScreenshotSettings) {s : Session}
    (hwf : s.tree.WellFormed) : EndsWhole filter settings s where
  noInput h := ⟨_, fun observers => run_of_not_directory observers h⟩
  noOutput l e hl hcreate := by
    have hlist := listImages_of_lookup hl settings.extensions
    obtain ⟨s', htree, htold, hrun⟩ := run_of_listed filter hlist
    have hcreating := yields_createDirs filter s settings.outputDir
    have hmade := hcreating.1.symm.trans hcreate
    have hgrows : s.tree.Grows s'.tree := htree ▸ grows_createDirs s.tree settings.outputDir
    rw [hmade] at hrun
    exact ⟨_, s', hrun, htold, hgrows, fun k c => hgrows.node?_eq_file_iff⟩
  otherwise l hl hcreate := by
    have hlist := listImages_of_lookup hl settings.extensions
    obtain ⟨s', htree, htold, hrun⟩ := run_of_listed filter hlist
    have hcreating := yields_createDirs filter s settings.outputDir
    have hmade := hcreating.1.symm.trans hcreate
    have hlisting := yields_listImages filter s settings.inputDir settings.extensions
    rw [hmade] at hrun
    refine ⟨_, hlisting.1.trans hlist, fun observers => ⟨_, _, hrun observers, ?_⟩⟩
    exact outcomes_of_named observers (fileName?_of_listImages hwf hlist) s'

theorem run_screenshotTool_of_load_error (filter : Log.Filter) {e : SettingsError}
    (h : ((Settings.load (host filter)).run s).1 = .error e) :
    (Tool.runScreenshotTool (host filter)).run s = (.error (.settings e), s) := by
  have hload : (Settings.load (host filter)).run s = (.error e, s) :=
    Prod.ext h (run_load filter s)
  unfold Tool.runScreenshotTool
  rw [run_bind, hload]
  rfl

section

variable {loaded : Settings} (hload : ((Settings.load (host filter)).run s).1 = .ok loaded)
include hload

theorem run_screenshotTool_of_error {e : RunError} {s' : Session}
    (h : (runScreenshots (host filter) {} loaded.screenshots).run s = (.error e, s')) :
    (Tool.runScreenshotTool (host filter)).run s = (.error (.run e), s') := by
  have hload : (Settings.load (host filter)).run s = (.ok loaded, s) :=
    Prod.ext hload (run_load filter s)
  unfold Tool.runScreenshotTool
  rw [run_bind, hload]
  dsimp only
  rw [run_bind, h]
  rfl

theorem run_screenshotTool_of_ok {report : BatchReport} {s' : Session}
    (h : (runScreenshots (host filter) {} loaded.screenshots).run s = (.ok report, s')) :
    ∃ s'', (Tool.runScreenshotTool (host filter)).run s = (.ok (), s'') ∧ s''.tree = s'.tree := by
  have hload : (Settings.load (host filter)).run s = (.ok loaded, s) :=
    Prod.ext hload (run_load filter s)
  have hprint (lines : List String) (t : Session) :
      Yields (lines.forM (host filter).print) t () t.tree := by
    induction lines generalizing t with
    | nil => exact .pure () rfl
    | cons line lines ih =>
      have hline : Yields ((host filter).print line) t () t.tree := ⟨rfl, rfl⟩
      exact .bind hline fun t' ht => ht ▸ ih t'
  unfold Tool.runScreenshotTool
  rw [run_bind, hload]
  dsimp only
  rw [run_bind, h]
  exact ⟨_, rfl, (hprint (Tool.summary loaded.screenshots report) s').2⟩

end

theorem run_start (filter : Log.Filter) {text : Option String} (h : Log.Filter.ofText text = some filter)
    (s : Session) :
    ((Tool.start host .screenshots text).run s).1 =
        (if ((Tool.runScreenshotTool (host filter)).run s).1.isOk then .success else .failure) ∧
      ((Tool.start host .screenshots text).run s).2.tree =
        ((Tool.runScreenshotTool (host filter)).run s).2.tree := by
  have hrun : Yields (Tool.run (host filter) .screenshots) s
      ((Tool.runScreenshotTool (host filter)).run s).1.isOk
      ((Tool.runScreenshotTool (host filter)).run s).2.tree := by
    unfold Tool.run
    have htool : Yields (Tool.runScreenshotTool (host filter)) s _ _ := ⟨rfl, rfl⟩
    refine .bind htool fun s₁ h₁ => ?_
    rcases ((Tool.runScreenshotTool (host filter)).run s).1 with e | u
    · exact .bind (yields_log filter s₁ _) fun s₂ h₂ => .pure _ (h₂.trans h₁)
    · exact .pure _ h₁
  unfold Tool.start
  rw [h]
  refine Yields.bind hrun fun s₁ h₁ => ?_
  exact .pure _ h₁

/-- Once its filter is known the tool fails exactly when its run does. -/
theorem exit_start {text : Option String} (h : Log.Filter.ofText text = some filter) (s : Session) :
    (((Tool.start host .screenshots text).run s).1 = .failure ↔
      ∃ e, ((Tool.runScreenshotTool (host filter)).run s).1 = .error e) ∧
    (((Tool.start host .screenshots text).run s).1 = .success ↔
      ((Tool.runScreenshotTool (host filter)).run s).1 = .ok ()) ∧
    ((Tool.start host .screenshots text).run s).2.tree =
      ((Tool.runScreenshotTool (host filter)).run s).2.tree := by
  obtain ⟨hexit, htree⟩ := run_start filter h s
  rw [hexit, htree]
  rcases ((Tool.runScreenshotTool (host filter)).run s).1 with e | u <;>
    simp [Except.isOk, Except.toBool]

/-- Without a text for its filter the tool always starts, and fails exactly when its run does. -/
theorem exit_start_unset (s : Session) :
    ((Tool.start host .screenshots none).run s).1 ≠ .crash ∧
    (((Tool.start host .screenshots none).run s).1 = .failure ↔
      ∃ e, ((Tool.runScreenshotTool (host Log.Filter.default)).run s).1 = .error e) ∧
    (((Tool.start host .screenshots none).run s).1 = .success ↔
      ((Tool.runScreenshotTool (host Log.Filter.default)).run s).1 = .ok ()) := by
  have hunset : Log.Filter.ofText none = some Log.Filter.default := rfl
  obtain ⟨hfailure, hsuccess, -⟩ := exit_start hunset s
  refine ⟨?_, hfailure, hsuccess⟩
  rw [(run_start Log.Filter.default hunset s).1]
  split <;> simp

/-- A run of the tool fails for its settings, its input or its output directory alone, and then
leaves every file as it was. Its exit tells whether it has failed, unless there is a text for its
filter that cannot be cut into its parts: then it crashes before it has done anything. -/
theorem fatal_screenshotTool (filter : Log.Filter) (s : Session) (hwf : s.tree.WellFormed) :
    (∀ settings, EndsWhole filter settings s) ∧
    (∀ e, ((Settings.load (host filter)).run s).1 = .error e →
      (Tool.runScreenshotTool (host filter)).run s = (.error (.settings e), s)) ∧
    (∀ loaded, ((Settings.load (host filter)).run s).1 = .ok loaded →
      (∀ e s', (runScreenshots (host filter) {} loaded.screenshots).run s = (.error e, s') →
        (Tool.runScreenshotTool (host filter)).run s = (.error (.run e), s')) ∧
      ∀ report s', (runScreenshots (host filter) {} loaded.screenshots).run s = (.ok report, s') →
        ∃ s'', (Tool.runScreenshotTool (host filter)).run s = (.ok (), s'') ∧
          s''.tree = s'.tree) ∧
    ∀ text,
      (Log.Filter.ofText text = some filter →
        ((((Tool.start host .screenshots text).run s).1 = .failure ↔
          ∃ e, ((Tool.runScreenshotTool (host filter)).run s).1 = .error e) ∧
        (((Tool.start host .screenshots text).run s).1 = .success ↔
          ((Tool.runScreenshotTool (host filter)).run s).1 = .ok ()) ∧
        ((Tool.start host .screenshots text).run s).2.tree =
          ((Tool.runScreenshotTool (host filter)).run s).2.tree)) ∧
      (Log.Filter.ofText text = none →
        (Tool.start host .screenshots text).run s = (.crash, s)) := by
  refine ⟨fun settings => endsWhole filter settings hwf, ?_, ?_, ?_⟩
  · intro e h
    exact run_screenshotTool_of_load_error filter h
  · intro loaded hload
    exact ⟨fun e s' h => run_screenshotTool_of_error hload h,
      fun report s' h => run_screenshotTool_of_ok hload h⟩
  · intro text
    refine ⟨fun hfilter => exit_start hfilter s, fun hnone => ?_⟩
    unfold Tool.start
    rw [hnone]
    rfl

end

/-- The default output directory lies in the default input directory, and creating it would make
that one too. -/
theorem fatal_emptyDirectory :
    FileTree.empty.WellFormed ∧ (¬∃ l, FileTree.empty.lookup ⟨"screenshots"⟩ = .ok (l, .directory)) ∧
      (∃ e, (Tool.runScreenshotTool (host Log.Filter.default)).run (start FileTree.empty) =
        (.error e, start FileTree.empty)) ∧
      ((Tool.start host .screenshots none).run (start FileTree.empty)).1 = .failure := by
  obtain ⟨hends, -, htool, hexit⟩ :=
    fatal_screenshotTool Log.Filter.default (start FileTree.empty) wellFormed_empty
  have hload : ((Settings.load (host Log.Filter.default)).run (start FileTree.empty)).1 =
      .ok Settings.default := rfl
  have hmissing : ¬∃ l, FileTree.empty.lookup ⟨"screenshots"⟩ = .ok (l, .directory) := by
    rintro ⟨l, h⟩
    have hfault : FileTree.empty.lookup ⟨"screenshots"⟩ = .error .notFound := rfl
    rw [hfault] at h
    contradiction
  obtain ⟨e, hrun⟩ := (hends Settings.default.screenshots).noInput hmissing
  have hfails := (htool Settings.default hload).1 e _ (hrun {})
  refine ⟨wellFormed_empty, hmissing, ⟨_, hfails⟩, ?_⟩
  exact ((hexit none).1 rfl).1.2 ⟨.run e, by rw [hfails]⟩

end Session

end Storefront
