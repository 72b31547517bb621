import Storefront.Proofs.Batch.Copying
import Storefront.Proofs.Batch.WholeRun
import Storefront.Proofs.Files.Slashes

/-! A run over the outputs of another one, with the same canvas: every output that fits is written
again as it is, under its own name. -/

namespace Storefront

open FileTree

def ScreenshotSettings.again (settings : ScreenshotSettings) (dir : Path) (background : Color) :
    ScreenshotSettings :=
  { settings with
    inputDir := settings.outputDir, outputDir := dir, background := background, extensions := ["png"] }

theorem vacant_of_dirEntries (settings : ScreenshotSettings) {t : FileTree} (hlf : t.LinkFree)
    (hd : (t.entries.map (·.1)).Nodup) (h : t.dirEntries settings.outputDir = .ok []) :
    ∃ l, Vacant settings t l := by
  obtain ⟨l, hlookup, hempty⟩ := dirEntries_eq_ok_iff.1 h
  exact ⟨l, hlf, hd, hlookup, List.map_eq_nil_iff.1 hempty.symm⟩

section

variable [Codecs]

/-- What a run over the outputs in `dir` makes of them in `dir'`: `t` is the tree after it. -/
structure Rerun (target : Dimensions) (dir dir' : Path) (t : FileTree)
    (first second : List ItemOutcome) : Prop where
  sources : (second.map (·.source)).Perm (first.filterMap (·.output?))
  once : (second.map (·.source)).Nodup
  outcomes : ∀ outcome ∈ second, ∃ name, outcome.source = dir.join name ∧ HasPngExtension name ∧
    (Fits target dir' name →
      outcome = .normalized (dir.join name) (dir'.join name) target ⟨target, 0, 0⟩ false) ∧
    (¬Fits target dir' name → ∃ cause, outcome = .failed (dir.join name) cause)
  written : ∀ outcome ∈ second, ∀ output, outcome.output? = some output →
    ∃ file, t.read output = .ok file
  files : ∀ name file, IsEntryName name → t.read (dir'.join name) = .ok file →
    t.read (dir.join name) = .ok file ∧ ∃ r, r.size = target ∧
      openPicture (dir.join name) (.ok file) = .ok (.rgb8 r) ∧
      openPicture (dir'.join name) (.ok file) = .ok (.rgb8 r)

theorem Copying.rerun {settings : ScreenshotSettings} {t : FileTree} {dir : Path} {l l' : Location}
    {names : List String} (h : Copying settings t dir l l' names) {first : List ItemOutcome}
    (hfirst : (names.map dir.join).Perm (first.filterMap (·.output?))) :
    Rerun settings.target dir settings.outputDir (tree settings dir names t) first
      (outcomes settings dir names t) where
  sources := by rwa [BatchState.map_source_course]
  once := by
    rw [BatchState.map_source_course]
    have hnames : names.Nodup :=
      List.Pairwise.of_map lowerCase (fun a b hne heq => hne (congrArg lowerCase heq))
        h.gallery.apart
    exact Path.nodup_map_join dir h.gallery.entryName hnames
  outcomes := by
    intro outcome ho
    obtain ⟨i, hi⟩ := List.mem_iff_getElem?.1 ho
    obtain ⟨hsrc, -, -⟩ := BatchState.split_of_course outcome.source hi rfl
    rw [List.getElem?_map, Option.map_eq_some_iff] at hsrc
    obtain ⟨name, hname, hsrc⟩ := hsrc
    refine ⟨name, hsrc.symm, h.gallery.png name (List.mem_of_getElem? hname), ?_, ?_⟩
    · intro hfits
      exact Option.some.inj (hi.symm.trans (h.outcome_of_fits hname hfits))
    · intro hfits
      obtain ⟨cause, hfailed⟩ := h.outcome_of_not_fits hname hfits
      exact ⟨cause, Option.some.inj (hi.symm.trans hfailed)⟩
  written := by
    intro outcome ho output hout
    obtain ⟨j, hj⟩ := List.mem_iff_getElem?.1 ho
    obtain ⟨name, file, hentry, -, rfl, hleads, hnode, -⟩ := h.vacant.node?_of_output hj hout
    exact ⟨file, hleads.read (h.vacant.linkFree_after _) hentry hnode⟩
  files := by
    intro name file hentry hread
    have hlf := h.vacant.linkFree_after (names.map dir.join)
    obtain ⟨l₂, hleads, hnode⟩ := (read_join_eq_ok_iff hlf hentry).1 hread
    obtain rfl := Except.ok.inj (hleads.folder.symm.trans (h.vacant.folder_after _))
    obtain ⟨hname, hfits, hsource⟩ := h.node?_tree hnode
    obtain ⟨file', hfile', r, hsize, hencode⟩ := h.gallery.picture name hname
    obtain rfl := Node.file.inj (Option.some.inj (hsource.symm.trans hfile'))
    have hpng := h.gallery.png name hname
    have hroom : r.size.area * 3 ≤ maxPictureBytes := hsize ▸ hfits.1
    refine ⟨h.read_after hname _ hfile', r, hsize, ?_, ?_⟩
    · rw [openPicture_encode (Path.fileName?_join dir hentry) hpng hencode, if_pos hroom]
    · rw [openPicture_encode (Path.fileName?_join _ hentry) hpng hencode, if_pos hroom]

theorem copying_of_runScreenshots {filter : Log.Filter} {observers : Observers (StateM Session)}
    (ho : observers.LookOn) {settings : ScreenshotSettings} {dir : Path} (background : Color)
    {s s' : Session} {report : BatchReport} (hwf : s.tree.WellFormed) (hlf : s.tree.LinkFree)
    (hrun : (runScreenshots (Session.host filter) observers settings).run s = (.ok report, s'))
    (hnew : (s.tree.createDirs settings.outputDir).2.dirEntries settings.outputDir = .ok [])
    (hnew' : (s'.tree.createDirs dir).2.dirEntries dir = .ok []) :
    ∃ names l l', s'.tree.listImages settings.outputDir ["png"] =
        .ok (names.map settings.outputDir.join) ∧
      Copying (settings.again dir background) (s'.tree.createDirs dir).2 settings.outputDir l l'
        names ∧
      (names.map settings.outputDir.join).Perm (report.outcomes.filterMap (·.output?)) := by
  obtain ⟨files, -, -, houtcomes, htree⟩ := Session.course_of_runScreenshots filter ho hrun
  have hgrows := grows_createDirs s.tree settings.outputDir
  obtain ⟨l, hvacant⟩ :=
    vacant_of_dirEntries settings (hgrows.linkFree hlf) (hgrows.distinct hwf.distinct) hnew
  obtain ⟨names, hlist, hgallery, hperm⟩ := hvacant.gallery files
  rw [← htree] at hlist hgallery
  rw [← houtcomes] at hperm
  -- The second output directory is created after the first run, which leaves the gallery as it is.
  have hgrows' := grows_createDirs s'.tree dir
  obtain ⟨l', hvacant'⟩ := vacant_of_dirEntries (settings.again dir background)
    (hgrows'.linkFree hgallery.linkFree) (hgrows'.distinct hgallery.distinct) hnew'
  exact ⟨names, l, l', hlist, ⟨hgallery.grows hgrows', hvacant'⟩, hperm⟩

/-- A run over the outputs of a run, into an empty directory, copies those that fit: each keeps its
name, fills the canvas, and has the same pixels as before. -/
theorem rerun_runScreenshots (filter filter' : Log.Filter)
    (observers observers' : Observers (StateM Session)) (ho : observers.LookOn)
    (ho' : observers'.LookOn) (settings : ScreenshotSettings) (dir : Path) (background : Color)
    (s s' : Session) (report : BatchReport) (hwf : s.tree.WellFormed) (hlf : s.tree.LinkFree)
    (hrun : (runScreenshots (Session.host filter) observers settings).run s = (.ok report, s'))
    (hnew : (s.tree.createDirs settings.outputDir).2.dirEntries settings.outputDir = .ok [])
    (hcreate : (s'.tree.createDirs dir).1 = .ok ())
    (hnew' : (s'.tree.createDirs dir).2.dirEntries dir = .ok []) :
    ∃ report' s'', (runScreenshots (Session.host filter') observers'
        (settings.again dir background)).run s' = (.ok report', s'') ∧
      Rerun settings.target settings.outputDir dir s''.tree report.outcomes report'.outcomes := by
  obtain ⟨names, l, l', hlist, hcopying, hperm⟩ :=
    copying_of_runScreenshots ho background hwf hlf hrun hnew hnew'
  obtain ⟨s₁, h₁, hrun'⟩ :=
    Session.runScreenshots_of_ok filter' observers' (settings.again dir background) hlist hcreate
  refine ⟨_, _, hrun', ?_⟩
  rw [Session.outcomes_normalizeBatch filter' s₁ ho', Session.tree_normalizeBatch filter' s₁ ho', h₁]
  exact hcopying.rerun hperm

end

namespace FileTree

def onePicture : FileTree where
  workDir := ["work"]
  entries :=
    [(["work"], .directory), (["in", "work"], .directory),
     (["a.png", "in", "work"],
       .file (Png.pack (Png.fileParts (.ofFn ⟨1, 1⟩ fun _ _ => ⟨10, 20, 30⟩))))]

theorem wellFormed_onePicture : onePicture.WellFormed where
  distinct := by decide
  named := by
    intro e he
    simp only [onePicture, List.mem_cons, List.not_mem_nil, or_false] at he
    obtain rfl | rfl | rfl := he
    · exact ⟨"work", [], rfl, by simp [IsEntryName], rfl⟩
    · exact ⟨"in", ["work"], rfl, by simp [IsEntryName], rfl⟩
    · exact ⟨"a.png", ["in", "work"], rfl, by simp [IsEntryName], rfl⟩

theorem linkFree_onePicture : onePicture.LinkFree := by
  simp [LinkFree, onePicture]

theorem listImages_onePicture : onePicture.listImages ⟨"in"⟩ ["png"] = .ok [⟨"in/a.png"⟩] := by
  have hes : onePicture.dirEntries ⟨"in"⟩ = .ok [⟨"a.png", .file⟩] := by decide +kernel
  rw [listImages, if_pos (by decide +kernel), hes]
  simp only [Scan.paths, Scan.sorted]
  rw [List.mergeSort_of_pairwise (by decide +kernel)]
  decide +kernel

end FileTree

def onePictureSettings : ScreenshotSettings :=
  { ScreenshotSettings.default with
    inputDir := ⟨"in"⟩, outputDir := ⟨"out"⟩, targetWidth := 2, targetHeight := 1 }

def onePictureTree : FileTree :=
  (BatchState.after onePictureSettings ⟨[], (onePicture.createDirs ⟨"out"⟩).2⟩ [⟨"in/a.png"⟩]).tree

theorem runScreenshots_onePicture :
    ∃ report s', (runScreenshots (Session.host []) Session.observers onePictureSettings).run
        (Session.start onePicture) = (.ok report, s') ∧
      report.outcomes.filterMap (·.output?) = [⟨"out/a.png"⟩] ∧ s'.tree = onePictureTree := by
  obtain ⟨s₁, h₁, hrun⟩ := Session.runScreenshots_of_ok [] (s := Session.start onePicture)
    Session.observers onePictureSettings listImages_onePicture (by decide +kernel)
  refine ⟨_, _, hrun, ?_, ?_⟩
  · rw [Session.outcomes_normalizeBatch [] s₁ Session.lookOn_observers, h₁]
    decide +kernel
  · rw [Session.tree_normalizeBatch [] s₁ Session.lookOn_observers, h₁]
    rfl

theorem rerun_onePicture :
    ∃ report s' report' s'',
      (runScreenshots (Session.host []) Session.observers onePictureSettings).run
        (Session.start onePicture) = (.ok report, s') ∧
      report.outcomes.filterMap (·.output?) = [⟨"out/a.png"⟩] ∧
      (runScreenshots (Session.host []) Session.observers
        (onePictureSettings.again ⟨"copy"⟩ Color.black)).run s' = (.ok report', s'') ∧
      Fits onePictureSettings.target ⟨"copy"⟩ "a.png" ∧
      Rerun onePictureSettings.target ⟨"out"⟩ ⟨"copy"⟩ s''.tree report.outcomes report'.outcomes := by
  obtain ⟨report, s', hrun, houtputs, htree⟩ := runScreenshots_onePicture
  obtain ⟨report', s'', hrun', hrerun⟩ := rerun_runScreenshots [] [] Session.observers
    Session.observers Session.lookOn_observers Session.lookOn_observers onePictureSettings ⟨"copy"⟩
    Color.black (Session.start onePicture) s' report wellFormed_onePicture linkFree_onePicture hrun
    (by decide +kernel) (by rw [htree]; decide +kernel) (by rw [htree]; decide +kernel)
  exact ⟨report, s', report', s'', hrun, houtputs, hrun', by decide +kernel, hrerun⟩

/-- A directory whose own path is short enough, but not the paths of its entries. -/
def longDir : Path :=
  slashed 4088

theorem createDir_onePictureTree :
    ∃ t, onePictureTree.createDir ⟨"./o2"⟩ = .ok t ∧ t.dirEntries ⟨"./o2"⟩ = .ok [] := by
  have h : (onePictureTree.createDir ⟨"./o2"⟩ >>= (·.dirEntries ⟨"./o2"⟩)) = .ok [] := by
    decide +kernel
  rcases hcreate : onePictureTree.createDir ⟨"./o2"⟩ with e | t
  · rw [hcreate] at h
    contradiction
  · rw [hcreate] at h
    exact ⟨t, rfl, h⟩

theorem not_fits_longDir (target : Dimensions) : ¬Fits target longDir "a.png" := by
  rintro ⟨-, hshort⟩
  have hname : IsEntryName "a.png" := by simp [IsEntryName]
  rw [longDir, utf8ByteSize_join_slashed 4088 "a.png" hname] at hshort
  exact absurd hshort (by decide)

/-- In a new directory with a long path the output of a run is not written again. -/
theorem rerun_longPath :
    onePicture.LinkFree ∧ onePictureSettings.target.isEmpty = false ∧ ∃ report s' report' s'',
      (runScreenshots (Session.host []) Session.observers onePictureSettings).run
        (Session.start onePicture) = (.ok report, s') ∧
      onePicture.holds ⟨"out"⟩ = false ∧
      (onePicture.createDirs ⟨"out"⟩).2.dirEntries ⟨"out"⟩ = .ok [] ∧
      s'.tree.holds longDir = false ∧ (s'.tree.createDirs longDir).1 = .ok () ∧
      (s'.tree.createDirs longDir).2.dirEntries longDir = .ok [] ∧
      (s'.tree.createDirs longDir).2.lookup longDir ≠
        (s'.tree.createDirs longDir).2.lookup ⟨"out"⟩ ∧
      (runScreenshots (Session.host []) Session.observers
        (onePictureSettings.again longDir Color.white)).run s' = (.ok report', s'') ∧
      ∃ cause, .failed ⟨"out/a.png"⟩ cause ∈ report'.outcomes := by
  refine ⟨linkFree_onePicture, by decide, ?_⟩
  obtain ⟨report, s', hrun, houtputs, htree⟩ := runScreenshots_onePicture
  obtain ⟨t, hcreate, hempty⟩ := createDir_onePictureTree
  have hdirs : s'.tree.createDirs longDir = (.ok (), t) := by
    rw [htree]
    exact createDirs_slashed (by decide) (by decide) hcreate
  have hentries : t.dirEntries longDir = .ok [] :=
    dirEntries_slashed (by decide) (by decide) hempty
  have hnew : (onePicture.createDirs ⟨"out"⟩).2.dirEntries ⟨"out"⟩ = .ok [] := by decide +kernel
  have hnew' : (s'.tree.createDirs longDir).2.dirEntries longDir = .ok [] := by
    rw [hdirs]
    exact hentries
  obtain ⟨names, l, l', hlist, hcopying, hperm⟩ :=
    copying_of_runScreenshots Session.lookOn_observers Color.white wellFormed_onePicture
      linkFree_onePicture hrun hnew hnew'
  -- There is one output, so there is one name to list.
  have hnames : names = ["a.png"] := by
    rw [houtputs] at hperm
    exact Path.eq_singleton_of_perm _ hcopying.gallery.entryName (by simp [IsEntryName]) hperm
  obtain ⟨s₁, h₁, hrun'⟩ := Session.runScreenshots_of_ok [] Session.observers
    (onePictureSettings.again longDir Color.white) hlist (by
      show (s'.tree.createDirs longDir).1 = .ok ()
      rw [hdirs])
  have habsent : s'.tree.holds longDir = false := by
    rw [holds, htree, longDir, lookup_slashed (by decide) (by decide)]
    decide +kernel
  obtain ⟨cause, hfailed⟩ :=
    hcopying.outcome_of_not_fits (i := 0) (by rw [hnames]; rfl) (not_fits_longDir _)
  refine ⟨report, s', _, _, hrun, by decide +kernel, hnew, habsent, ?_, hnew', ?_, hrun', cause, ?_⟩
  · rw [hdirs]
  · intro hsame
    have hplaces := hcopying.gallery.lookup.symm.trans (hsame.symm.trans hcopying.vacant.lookup)
    have hne := hcopying.ne (by rw [hnames]; exact List.mem_singleton_self "a.png")
    exact hne (Prod.mk.inj (Except.ok.inj hplaces)).1
  · rw [Session.outcomes_normalizeBatch [] s₁ Session.lookOn_observers, h₁]
    exact List.mem_of_getElem? hfailed

end Storefront
