import Storefront.Proofs.Batch.Frame

/-! The files after a batch whose items do not disturb each other: every output holds the picture
that its source had before the batch, and everything else is as it was. -/

namespace Storefront

open FileTree

/-- A source does not come by the place where the output of another one is written. -/
def FileTree.Avoids (t : FileTree) (dir src other : Path) : Prop :=
  ∀ k ∈ (outputPath? other dir).bind t.target?, k ∉ t.trail src

instance (t : FileTree) (dir src other : Path) : Decidable (t.Avoids dir src other) :=
  inferInstanceAs (Decidable (∀ _ ∈ _, _))

/-- No source comes by the output of another item. -/
def Undisturbed (t : FileTree) (dir : Path) (files : List Path) : Prop :=
  files.Pairwise fun a b => t.Avoids dir a b ∧ t.Avoids dir b a

instance (t : FileTree) (dir : Path) (files : List Path) : Decidable (Undisturbed t dir files) :=
  inferInstanceAs (Decidable (List.Pairwise _ _))

theorem Undisturbed.avoids {t : FileTree} {dir src other : Path} {files : List Path}
    (h : Undisturbed t dir files) {i j : Nat} (hij : i ≠ j) (hi : files[i]? = some src)
    (hj : files[j]? = some other) : t.Avoids dir src other := by
  obtain ⟨hi', rfl⟩ := List.getElem?_eq_some_iff.1 hi
  obtain ⟨hj', rfl⟩ := List.getElem?_eq_some_iff.1 hj
  have hpair := List.pairwise_iff_getElem.1 h
  rcases Nat.lt_or_gt_of_ne hij with hlt | hlt
  · exact (hpair i j hi' hj' hlt).1
  · exact (hpair j i hj' hi' hlt).2

section

variable [Codecs]

/-- Where a batch leaves the files, told by its outcomes and by the tree before it. -/
structure EndState (c : Canvas) (t t' : FileTree) (outcomes : List ItemOutcome) : Prop where
  outputs : ∀ src output sourceSize placement flattenedAlpha,
    .normalized src output sourceSize placement flattenedAlpha ∈ outcomes →
    ∃ content p n file, t.read src = .ok content ∧ openPicture src (.ok content) = .ok p ∧
      p.normalize c = .ok n ∧ Png.encode n.image = .ok file ∧ t'.read output = .ok file ∧
      sourceSize = n.sourceSize ∧ placement = n.placement ∧ flattenedAlpha = n.flattenedAlpha
  entries : ∀ k, t.SparedBy outcomes k → t'.node? k = t.node? k
  paths : ∀ p, (∀ k ∈ t.trail p, t.SparedBy outcomes k) → t'.lookup p = t.lookup p
  failures : ∀ src cause, .failed src cause ∈ outcomes → t'.lookup src = t.lookup src

namespace BatchState

variable {settings : ScreenshotSettings} {b : BatchState} {files : List Path} {src : Path}

theorem target?_ne (hund : Undisturbed b.tree settings.outputDir files) {i j : Nat} (hij : i ≠ j)
    (hsrc : files[i]? = some src) {outcome : ItemOutcome} (hj : files[j]? = some outcome.source)
    {items : List Path} (ho : outcome ∈ (b.course settings items).1) {output : Path}
    (hout : outcome.output? = some output) {k : Location} (hk : k ∈ b.tree.trail src) :
    b.tree.target? output ≠ some k := by
  intro htarget
  obtain ⟨name, hname, -, rfl, -⟩ := name_of_course ho hout
  have hpath : outputPath? outcome.source settings.outputDir = some _ :=
    outputPath?_eq_some_iff.2 ⟨name, hname, rfl⟩
  exact hund.avoids hij hsrc hj k (by rw [hpath]; exact htarget) hk

theorem lookup_of_spared (hlf : b.tree.LinkFree) {p : Path}
    (h : ∀ k ∈ b.tree.trail p, b.tree.SparedBy (b.course settings files).1 k) :
    (b.after settings files).tree.lookup p = b.tree.lookup p := by
  apply lookup_congr hlf (sameDirs_after hlf files).1.workDir
  intro k hk
  exact node?_after hlf (h k hk)

theorem lookup_before (hlf : b.tree.LinkFree)
    (hund : Undisturbed b.tree settings.outputDir files) {i : Nat} (hsrc : files[i]? = some src) :
    (b.after settings (files.take i)).tree.lookup src = b.tree.lookup src := by
  apply lookup_of_spared hlf
  intro k hk outcome ho output hout
  -- Only items before this one have run, so the output is that of another.
  obtain ⟨j, hj⟩ := List.mem_iff_getElem?.1 ho
  have hji : j < i := by
    have hlt := (List.getElem?_eq_some_iff.1 hj).1
    rw [length_course, List.length_take] at hlt
    omega
  obtain ⟨hother, -, -⟩ := split_of_course outcome.source hj rfl
  rw [List.getElem?_take_of_lt hji] at hother
  exact target?_ne hund (by omega) hsrc hother ho hout hk

theorem prepared_of_output (hlf : b.tree.LinkFree)
    (hund : Undisturbed b.tree settings.outputDir files) {outcome : ItemOutcome} {output : Path}
    (hmem : outcome ∈ (b.course settings files).1) (hout : outcome.output? = some output) :
    ∃ n file, preparePicture settings.canvas outcome.source (b.tree.read outcome.source) =
        .ok (n, file) ∧
      outcome = .normalized outcome.source output n.sourceSize n.placement n.flattenedAlpha ∧
      (b.after settings files).tree.read output = .ok file := by
  obtain ⟨i, hi⟩ := List.mem_iff_getElem?.1 hmem
  obtain ⟨hsrc, hstep, hafter⟩ := split_of_course outcome.source hi rfl
  rw [hstep] at hout
  obtain ⟨n, file, hprep, hs, hread⟩ :=
    read_output (linkFree_after hlf (files.take i)) hout (files.drop (i + 1))
  rw [read_congr (lookup_before hlf hund hsrc)] at hprep
  exact ⟨n, file, hprep, hstep.trans hs, hafter ▸ hread⟩

theorem endState_after (hlf : b.tree.LinkFree)
    (hund : Undisturbed b.tree settings.outputDir files) :
    EndState settings.canvas b.tree (b.after settings files).tree (b.course settings files).1 where
  outputs := by
    intro src output sourceSize placement flattenedAlpha hmem
    obtain ⟨n, file, hprep, hs, hread⟩ := prepared_of_output hlf hund hmem rfl
    obtain ⟨content, p, hc, hp, hn, hf⟩ := content_of_preparePicture hprep
    obtain ⟨-, -, hsize, hplace, hflat⟩ := ItemOutcome.normalized.inj hs
    exact ⟨content, p, n, file, hc, hp, hn, hf, hread, hsize, hplace, hflat⟩
  entries k hk := node?_after hlf hk
  paths p hp := lookup_of_spared hlf hp
  failures := by
    intro src cause hmem
    obtain ⟨i, hi⟩ := List.mem_iff_getElem?.1 hmem
    obtain ⟨hsrc, -, -⟩ := split_of_course src hi rfl
    apply lookup_congr hlf (sameDirs_after hlf files).1.workDir
    intro k hk
    apply node?_after hlf
    intro outcome ho output hout
    -- The item itself has failed and has no output.
    obtain ⟨j, hj⟩ := List.mem_iff_getElem?.1 ho
    have hij : i ≠ j := by
      rintro rfl
      rw [hi] at hj
      obtain rfl := Option.some.inj hj
      simp [ItemOutcome.output?] at hout
    obtain ⟨hother, -, -⟩ := split_of_course outcome.source hj rfl
    exact target?_ne hund hij hsrc hother ho hout hk

end BatchState

/-- After a batch whose items do not disturb each other, every output holds the picture of what its
source held before, and no other entry has changed. -/
theorem endState_normalizeBatch (filter : Log.Filter) (observers : Observers (StateM Session))
    (ho : observers.LookOn) (settings : ScreenshotSettings) (files : List Path) (s : Session)
    (hlf : s.tree.LinkFree) (hund : Undisturbed s.tree settings.outputDir files) :
    EndState settings.canvas s.tree
      ((normalizeBatch (Session.host filter) observers settings files).run s).2.tree
      ((normalizeBatch (Session.host filter) observers settings files).run s).1.outcomes := by
  rw [Session.tree_normalizeBatch filter s ho, Session.outcomes_normalizeBatch filter s ho]
  exact BatchState.endState_after (b := ⟨[], s.tree⟩) hlf hund

end

namespace FileTree

def twoPictures : FileTree where
  workDir := ["work"]
  entries :=
    [(["work"], .directory), (["in", "work"], .directory), (["out", "work"], .directory),
     (["a.png", "in", "work"], .file (Png.pack (Png.fileParts (.ofFn ⟨1, 1⟩ fun _ _ => ⟨10, 20, 30⟩)))),
     (["b.png", "in", "work"], .file (Png.pack [Png.signature]))]

theorem linkFree_twoPictures : twoPictures.LinkFree := by
  simp [LinkFree, twoPictures]

theorem wellFormed_twoPictures : twoPictures.WellFormed where
  distinct := by decide
  named := by
    intro e he
    simp only [twoPictures, List.mem_cons, List.not_mem_nil, or_false] at he
    obtain rfl | rfl | rfl | rfl | rfl := he
    · exact ⟨"work", [], rfl, by simp [IsEntryName], rfl⟩
    · exact ⟨"in", ["work"], rfl, by simp [IsEntryName], rfl⟩
    · exact ⟨"out", ["work"], rfl, by simp [IsEntryName], rfl⟩
    · exact ⟨"a.png", ["in", "work"], rfl, by simp [IsEntryName], rfl⟩
    · exact ⟨"b.png", ["in", "work"], rfl, by simp [IsEntryName], rfl⟩

end FileTree

def twoPicturesSettings : ScreenshotSettings :=
  { ScreenshotSettings.default with inputDir := ⟨"in"⟩, outputDir := ⟨"out"⟩, targetWidth := 2, targetHeight := 1 }

theorem endState_twoPictures :
    let files := [⟨"in/a.png"⟩, ⟨"in/b.png"⟩]
    let run := (normalizeBatch (Session.host []) Session.observers twoPicturesSettings files).run
      (Session.start FileTree.twoPictures)
    run.1.outcomes.map (·.output?) = [some ⟨"out/a.png"⟩, none] ∧
      EndState twoPicturesSettings.canvas FileTree.twoPictures run.2.tree run.1.outcomes := by
  refine ⟨by decide +kernel, ?_⟩
  exact endState_normalizeBatch [] Session.observers Session.lookOn_observers twoPicturesSettings _
    (Session.start FileTree.twoPictures) (by simp [LinkFree, FileTree.twoPictures, Session.start])
    (by decide +kernel)

end Storefront
