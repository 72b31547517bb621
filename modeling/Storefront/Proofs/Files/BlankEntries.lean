import Mathlib.Data.List.Basic
import Storefront.Proofs.Files.Scanning
import Storefront.Settings.Basic

/-! What blank entries among the extensions add to a scan: the names that end in a dot, although
the check of the settings does not count such entries. -/

namespace Storefront

namespace Scan

variable {extensions : List String} {entry name : String}

def configured (extensions : List String) : List String :=
  extensions.filter fun entry => !Settings.isBlankText entry

/-- The entry asks for the empty extension: but for the blanks around it, it has only dots. -/
def IsVoid (entry : String) : Prop :=
  ∀ c ∈ trim entry.toList, c = '.'

instance (entry : String) : Decidable (IsVoid entry) :=
  List.decidableBAll (· = '.') (trim entry.toList)

def EndsInDot (name : String) : Prop :=
  ∃ stem, stem ≠ [] ∧ name.toList = stem ++ ['.']

/-- Blank entries ask for the name, and no others do. -/
structure OnlyBlankAsks (extensions : List String) (name : String) : Prop where
  endsInDot : EndsInDot name
  blank : ∃ entry ∈ extensions, Settings.isBlankText entry = true
  not_void : ∀ entry ∈ configured extensions, ¬IsVoid entry

theorem mem_configured :
    entry ∈ configured extensions ↔ entry ∈ extensions ∧ ¬Settings.isBlankText entry = true := by
  rw [configured, List.mem_filter, Bool.not_eq_true', Bool.not_eq_true]

theorem isVoid_iff : IsVoid entry ↔ wanted entry = [] := by
  simp [IsVoid, wanted, List.dropWhile_eq_nil_iff]

theorem isVoid_of_isBlankText (h : Settings.isBlankText entry = true) : IsVoid entry := by
  rw [Settings.isBlankText, List.isEmpty_iff] at h
  simp [IsVoid, h]

theorem askedFor_iff_of_endsInDot (h : EndsInDot name) :
    AskedFor extensions name ↔ ∃ entry ∈ extensions, IsVoid entry := by
  obtain ⟨stem, hstem, hname⟩ := h
  rw [askedFor_iff hname hstem (by simp)]
  simp only [isVoid_iff, List.map_nil, List.nil_eq, List.map_eq_nil_iff]

theorem askedFor_configured_iff : AskedFor (configured extensions) name ↔
    AskedFor extensions name ∧ ¬OnlyBlankAsks extensions name := by
  constructor
  · intro h
    constructor
    · obtain ⟨stem, extension, entry, hname, hstem, hdot, hentry, heq⟩ := h
      exact ⟨stem, extension, entry, hname, hstem, hdot, (mem_configured.1 hentry).1, heq⟩
    · intro honly
      obtain ⟨entry, hentry, hvoid⟩ := (askedFor_iff_of_endsInDot honly.endsInDot).1 h
      exact honly.not_void entry hentry hvoid
  · rintro ⟨⟨stem, extension, entry, hname, hstem, hdot, hentry, heq⟩, hnot⟩
    by_cases hblank : Settings.isBlankText entry = true
    · -- A blank entry asks for the empty extension only.
      have hwanted := isVoid_iff.1 (isVoid_of_isBlankText hblank)
      rw [← wanted, hwanted, List.map_nil, List.map_eq_nil_iff] at heq
      subst heq
      have hends : EndsInDot name := ⟨stem, hstem, hname⟩
      by_contra hasked
      refine hnot ⟨hends, ⟨entry, hentry, hblank⟩, fun other hother hvoid => ?_⟩
      exact hasked ((askedFor_iff_of_endsInDot hends).2 ⟨other, hother, hvoid⟩)
    · exact ⟨stem, extension, entry, hname, hstem, hdot, mem_configured.2 ⟨hentry, hblank⟩, heq⟩

theorem isListed_of_configured {e : DirEntry} (h : isListed (configured extensions) e = true) :
    isListed extensions e = true := by
  have hselects (hs : selects (configured extensions) e.name = true) :
      selects extensions e.name = true :=
    selects_iff.2 (askedFor_configured_iff.1 (selects_iff.1 hs)).1
  unfold isListed at h ⊢
  cases hkind : e.kind with
  | file | unknown fault =>
    rw [hkind] at h
    exact hselects h
  | other => simp [hkind] at h

theorem names_configured_sublist (extensions : List String) (es : List DirEntry) :
    (names (configured extensions) es).Sublist (names extensions es) :=
  (List.monotone_filter_right _ fun _ => isListed_of_configured).map _

end Scan

namespace FileTree

variable {t : FileTree} {dir p : Path} {l : Location} {extensions : List String} {name : String}
  {files files' : List Path}

theorem imageNames_configured (hwf : t.WellFormed) (hl : t.IsDirectoryAt l)
    (h : ¬∃ name, t.Shows dir l name ∧ Scan.OnlyBlankAsks extensions name) :
    t.imageNames dir l (Scan.configured extensions) = t.imageNames dir l extensions := by
  refine imageNames_congr hwf.distinct hwf.distinct fun name => ?_
  rw [mem_imageNames_iff_shows hwf.distinct hl, mem_imageNames_iff_shows hwf.distinct hl,
    Scan.askedFor_configured_iff]
  refine and_congr_left fun hshows => and_iff_left fun honly => ?_
  exact h ⟨name, hshows, honly⟩

theorem Scanned.mem_configured_iff (h : t.Scanned dir l extensions files)
    (h' : t.Scanned dir l (Scan.configured extensions) files') :
    p ∈ files' ↔ p ∈ files ∧
      ¬∃ name, IsEntryName name ∧ p = dir.join name ∧ Scan.OnlyBlankAsks extensions name := by
  rw [h.mem_iff, h'.mem_iff]
  constructor
  · rintro ⟨name, hname, rfl, hasked, hshows⟩
    obtain ⟨hasked, hnot⟩ := Scan.askedFor_configured_iff.1 hasked
    refine ⟨⟨name, hname, rfl, hasked, hshows⟩, ?_⟩
    rintro ⟨other, hother, hjoin, honly⟩
    rw [Path.join_injective dir hname hother hjoin] at hnot
    exact hnot honly
  · rintro ⟨⟨name, hname, rfl, hasked, hshows⟩, hnone⟩
    have hnot : ¬Scan.OnlyBlankAsks extensions name := fun honly =>
      hnone ⟨name, hname, rfl, honly⟩
    exact ⟨name, hname, rfl, Scan.askedFor_configured_iff.2 ⟨hasked, hnot⟩, hshows⟩

theorem Scanned.mem_of_onlyBlankAsks (h : t.Scanned dir l extensions files) (hwf : t.WellFormed)
    (hshows : t.Shows dir l name) (honly : Scan.OnlyBlankAsks extensions name) :
    IsEntryName name ∧ dir.join name ∈ files := by
  obtain ⟨n, hn⟩ := Option.ne_none_iff_exists'.1 hshows.node?_ne_none
  obtain ⟨entry, hentry, hblank⟩ := honly.blank
  have hname := hwf.isEntryName hn
  have hasked := (Scan.askedFor_iff_of_endsInDot honly.endsInDot).2
    ⟨entry, hentry, Scan.isVoid_of_isBlankText hblank⟩
  exact ⟨hname, (h.mem_iff _).2 ⟨name, hname, rfl, hasked, hshows⟩⟩

end FileTree

/-- Without its blank entries a scan fails as with them, and lists what it lists with them except for
the names that only blank entries ask for: both scans are the same exactly where the directory shows
no such name. -/
theorem Session.blankEntries_listImages (filter : Log.Filter) (withheld : Path → Option FileError)
    (s : Session) (dir : Path) (extensions : List String) (hwf : s.tree.WellFormed) :
    ∃ result result' : Except ScanError (List Path),
      Yields (listImages ((host filter).withholding withheld) dir extensions) s result s.tree ∧
      Yields (listImages ((host filter).withholding withheld) dir (Scan.configured extensions)) s
        result' s.tree ∧
      (∀ e, result' = .error e ↔ result = .error e) ∧
      (∀ files files', result = .ok files → result' = .ok files' → files'.Sublist files ∧
        ∀ p, p ∈ files' ↔ p ∈ files ∧ ¬∃ name, IsEntryName name ∧ p = dir.join name ∧
          Scan.OnlyBlankAsks extensions name) ∧
      (result' = result ↔ ¬∃ l name, s.tree.lookup dir = .ok (l, .directory) ∧
        withheld dir = none ∧ s.tree.Shows dir l name ∧ Scan.OnlyBlankAsks extensions name) := by
  by_cases hleads : ∃ l, s.tree.lookup dir = .ok (l, .directory)
  case neg =>
    have hmissing (extensions : List String) :=
      yields_listImages_of_not_directory filter withheld s extensions hleads
    refine ⟨_, _, hmissing _, hmissing _, by simp, by simp, iff_of_true rfl ?_⟩
    rintro ⟨l, -, hl, -⟩
    exact hleads ⟨l, hl⟩
  obtain ⟨l, hl⟩ := hleads
  rcases hw : withheld dir with - | e
  case some =>
    have hunreadable (extensions : List String) :=
      yields_listImages_of_withheld filter withheld s extensions hl hw
    exact ⟨_, _, hunreadable _, hunreadable _, by simp, by simp, by simp⟩
  have hat : s.tree.IsDirectoryAt l := FileTree.node?_of_lookup hl
  have hlisted (extensions : List String) :=
    yields_listImages_of_lookup filter withheld s extensions hl hw
  have hscanned : s.tree.Scanned dir l extensions _ := hwf.scanned hat
  have hmem (p : Path) := hscanned.mem_configured_iff (p := p) (hwf.scanned hat)
  refine ⟨_, _, hlisted _, hlisted _, by simp, ?_, ?_⟩
  · rintro files files' hfiles hfiles'
    obtain rfl := Except.ok.inj hfiles
    obtain rfl := Except.ok.inj hfiles'
    exact ⟨(Scan.names_configured_sublist _ _).map _, hmem⟩
  · constructor
    · rintro heq ⟨l', name, hl', -, hshows, honly⟩
      obtain ⟨rfl, -⟩ := Prod.mk.inj (Except.ok.inj (hl.symm.trans hl'))
      obtain ⟨hname, hlists⟩ := hscanned.mem_of_onlyBlankAsks hwf hshows honly
      rw [← Except.ok.inj heq] at hlists
      exact ((hmem _).1 hlists).2 ⟨name, hname, rfl, honly⟩
    · intro hnone
      rw [FileTree.imageNames_configured hwf hat]
      rintro ⟨name, hshows, honly⟩
      exact hnone ⟨l, name, hl, rfl, hshows, honly⟩

namespace FileTree

def dotEnded : FileTree where
  workDir := ["work"]
  entries :=
    [(["work"], .directory), (["in", "work"], .directory), (["a.", "in", "work"], .file ⟨#[]⟩),
     (["b.png", "in", "work"], .file ⟨#[]⟩)]

theorem wellFormed_dotEnded : dotEnded.WellFormed where
  distinct := by decide
  named := by
    intro e he
    simp only [dotEnded, List.mem_cons, List.not_mem_nil, or_false] at he
    obtain rfl | rfl | rfl | rfl := he
    · exact ⟨"work", [], rfl, by simp [IsEntryName], rfl⟩
    · exact ⟨"in", ["work"], rfl, by simp [IsEntryName], rfl⟩
    · exact ⟨"a.", ["in", "work"], rfl, by simp [IsEntryName], rfl⟩
    · exact ⟨"b.png", ["in", "work"], rfl, by simp [IsEntryName], rfl⟩

theorem lookup_dotEnded : dotEnded.lookup ⟨"in"⟩ = .ok (["in", "work"], .directory) := by rfl

theorem imageNames_dotEnded (extensions : List String) :
    dotEnded.imageNames ⟨"in"⟩ ["in", "work"] extensions =
      ["a.", "b.png"].filter (Scan.selects extensions) := by
  have hes : ((dotEnded.children ["in", "work"]).map fun c =>
      (⟨c.1, dotEnded.entryKind ["in", "work"] (Path.join ⟨"in"⟩ c.1) c.2⟩ : DirEntry)) =
        [⟨"a.", .file⟩, ⟨"b.png", .file⟩] := by
    decide +kernel
  rw [imageNames, hes]
  simp only [Scan.names, Scan.sorted]
  rw [List.mergeSort_of_pairwise (by decide +kernel)]
  by_cases ha : Scan.selects extensions "a." <;> by_cases hb : Scan.selects extensions "b.png" <;>
    simp [Scan.isListed, ha, hb]

end FileTree

/-- With an entry of dots the blank one adds nothing; without, it adds the name that ends in a dot. -/
theorem Session.blankEntries_dotEnded :
    FileTree.dotEnded.WellFormed ∧
    (∃ result, Yields (listImages ((host []).withholding fun _ => none) ⟨"in"⟩ ["", "."])
        (start FileTree.dotEnded) result FileTree.dotEnded ∧
      Yields (listImages ((host []).withholding fun _ => none) ⟨"in"⟩ (Scan.configured ["", "."]))
        (start FileTree.dotEnded) result FileTree.dotEnded) ∧
    ∃ result result', result' ≠ result ∧
      Yields (listImages ((host []).withholding fun _ => none) ⟨"in"⟩ ["png", ""])
        (start FileTree.dotEnded) result FileTree.dotEnded ∧
      Yields (listImages ((host []).withholding fun _ => none) ⟨"in"⟩ (Scan.configured ["png", ""]))
        (start FileTree.dotEnded) result' FileTree.dotEnded := by
  have hwf := FileTree.wellFormed_dotEnded
  refine ⟨hwf, ?_, ?_⟩
  · obtain ⟨result, result', hresult, hresult', -, -, hsame⟩ := blankEntries_listImages []
      (fun _ => none) (start FileTree.dotEnded) ⟨"in"⟩ ["", "."] hwf
    have hdots : ¬∃ name, Scan.OnlyBlankAsks ["", "."] name := by
      rintro ⟨name, -, -, hvoid⟩
      exact hvoid "." (by decide) (by decide)
    have heq : result' = result := hsame.2 (by
      rintro ⟨l, name, -, -, -, honly⟩
      exact hdots ⟨name, honly⟩)
    rw [heq] at hresult'
    exact ⟨result, hresult, hresult'⟩
  · obtain ⟨result, result', hresult, hresult', -, -, hsame⟩ := blankEntries_listImages []
      (fun _ => none) (start FileTree.dotEnded) ⟨"in"⟩ ["png", ""] hwf
    refine ⟨result, result', fun heq => ?_, hresult, hresult'⟩
    have hshows : FileTree.dotEnded.Shows ⟨"in"⟩ ["in", "work"] "a." := .file rfl
    have honly : Scan.OnlyBlankAsks ["png", ""] "a." := by
      exact ⟨⟨['a'], by decide, by decide⟩, ⟨"", by decide, by decide⟩, by decide⟩
    exact hsame.1 heq ⟨_, "a.", FileTree.lookup_dotEnded, rfl, hshows, honly⟩

/-- The check of the settings counts one extension, and the scan finds a file by the blank entry
beside it. -/
theorem Session.listImages_dotEnded :
    { Settings.default with screenshots :=
      { ScreenshotSettings.default with extensions := ["png", ""] } }.validate = .ok () ∧
    Scan.configured ["png", ""] = ["png"] ∧
    Yields (listImages ((host []).withholding fun _ => none) ⟨"in"⟩ ["png", ""])
      (start FileTree.dotEnded) (.ok [⟨"in/a."⟩, ⟨"in/b.png"⟩]) FileTree.dotEnded ∧
    Yields (listImages ((host []).withholding fun _ => none) ⟨"in"⟩ ["png"])
      (start FileTree.dotEnded) (.ok [⟨"in/b.png"⟩]) FileTree.dotEnded := by
  have hlisted (extensions : List String) := yields_listImages_of_lookup [] (fun _ => none)
    (start FileTree.dotEnded) extensions FileTree.lookup_dotEnded rfl
  simp only [start, FileTree.imageNames_dotEnded] at hlisted
  refine ⟨by decide, by decide, ?_, ?_⟩
  · exact hlisted ["png", ""]
  · exact hlisted ["png"]

end Storefront
