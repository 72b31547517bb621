import Mathlib.Data.List.TakeWhile
import Storefront.Proofs.Batch.WholeRun
import Storefront.Proofs.Path.Order
import Storefront.Proofs.Path.OutputName

/-! What a scan lists in a tree with links: the selected names of the entries that are files, or
of which that is not known. -/

namespace Storefront

namespace Path

theorem dot_not_mem_of_splitLastDot {name before after : List Char}
    (h : splitLastDot name = some (before, after)) : '.' ∉ after := by
  unfold splitLastDot at h
  split at h
  · contradiction
  next c rest hd =>
    obtain ⟨-, rfl⟩ := Prod.mk.inj (Option.some.inj h)
    intro hm
    simpa using List.mem_takeWhile_imp (List.mem_reverse.1 hm)

theorem splitLastDot_eq_some_iff {name before after : List Char} :
    splitLastDot name = some (before, after) ↔ name = before ++ '.' :: after ∧ '.' ∉ after := by
  constructor
  · intro h
    exact ⟨splitLastDot_eq h, dot_not_mem_of_splitLastDot h⟩
  · rintro ⟨rfl, h⟩
    exact splitLastDot_append h

theorem extensionOf?_eq_some_iff {name extension : String} :
    extensionOf? name = some extension ↔
      ∃ stem, stem ≠ [] ∧ name.toList = stem ++ '.' :: extension.toList ∧
        '.' ∉ extension.toList := by
  unfold extensionOf?
  constructor
  · intro h
    split at h
    next c before after hs =>
      obtain rfl := Option.some.inj h
      rw [String.toList_ofList]
      exact ⟨c :: before, List.cons_ne_nil c before, splitLastDot_eq_some_iff.1 hs⟩
    next => contradiction
  · rintro ⟨stem, hstem, hname, hdot⟩
    obtain ⟨c, before, rfl⟩ := List.exists_cons_of_ne_nil hstem
    rw [splitLastDot_eq_some_iff.2 ⟨hname, hdot⟩]
    exact congrArg some (String.ofList_toList)

end Path

namespace Scan

/-- The name has an extension that is asked for: the text after its last dot, which does not open
the name, is an entry without the blanks around it and the dots before it, in any letter case. -/
def AskedFor (extensions : List String) (name : String) : Prop :=
  ∃ stem extension entry, name.toList = stem ++ '.' :: extension ∧ stem ≠ [] ∧ '.' ∉ extension ∧
    entry ∈ extensions ∧
    extension.map Char.toLower = ((trim entry.toList).dropWhile (· = '.')).map Char.toLower

variable {extensions extensions' : List String} {name : String}

theorem askedFor_iff {stem extension : List Char} (hname : name.toList = stem ++ '.' :: extension)
    (hstem : stem ≠ []) (hdot : '.' ∉ extension) : AskedFor extensions name ↔
      ∃ entry ∈ extensions, extension.map Char.toLower = (wanted entry).map Char.toLower := by
  constructor
  · rintro ⟨stem', extension', entry, hname', -, hdot', hentry, heq⟩
    have hsplit : Path.splitLastDot (stem' ++ '.' :: extension') = some (stem', extension') :=
      Path.splitLastDot_append hdot'
    rw [← hname', hname, Path.splitLastDot_append hdot] at hsplit
    obtain ⟨-, rfl⟩ := Prod.mk.inj (Option.some.inj hsplit)
    exact ⟨entry, hentry, heq⟩
  · rintro ⟨entry, hentry, heq⟩
    exact ⟨stem, extension, entry, hname, hstem, hdot, hentry, heq⟩

theorem selects_iff : selects extensions name ↔ AskedFor extensions name := by
  unfold selects
  rcases he : Path.extensionOf? name with - | extension
  · refine iff_of_false (by simp) ?_
    rintro ⟨stem, extension, entry, hname, hstem, hdot, -⟩
    have hsome : Path.extensionOf? name = some (String.ofList extension) :=
      Path.extensionOf?_eq_some_iff.2 ⟨stem, hstem, by rwa [String.toList_ofList],
        by rwa [String.toList_ofList]⟩
    rw [he] at hsome
    contradiction
  · obtain ⟨stem, hstem, hname, hdot⟩ := Path.extensionOf?_eq_some_iff.1 he
    rw [askedFor_iff hname hstem hdot, List.any_eq_true]
    refine exists_congr fun entry => and_congr_right fun _ => ?_
    rw [beq_iff_eq, eq_comm, lowerAscii, lowerAscii]

theorem AskedFor.congr (h : ∀ entry, entry ∈ extensions' ↔ entry ∈ extensions) :
    AskedFor extensions' name ↔ AskedFor extensions name := by
  simp only [AskedFor, h]

end Scan

namespace FileTree

/-- The entry `name` of the directory at `l` is shown by a scan of `dir`: it leads to a file, links
followed, or cannot be inspected. -/
inductive Shows (t : FileTree) (dir : Path) (l : Location) (name : String) : Prop
  | file {content : ByteArray} : t.node? (name :: l) = some (.file content) → Shows t dir l name
  | linked {target : String} {k : Location} {content : ByteArray} :
    t.node? (name :: l) = some (.link target) → t.lookup (dir.join name) = .ok (k, .file content) →
      Shows t dir l name
  | broken {target : String} {e : FileError} :
    t.node? (name :: l) = some (.link target) → t.lookup (dir.join name) = .error e →
      Shows t dir l name
  | loop {target : String} :
    t.node? (name :: l) = some (.link target) → t.lookup (dir.join name) = .ok (l, .directory) →
      Shows t dir l name

/-- The entry `name` is a directory, or a link to another directory than that at `l`. -/
def LeadsAstray (t : FileTree) (dir : Path) (l : Location) (name : String) : Prop :=
  t.node? (name :: l) = some .directory ∨
    ∃ target k, t.node? (name :: l) = some (.link target) ∧
      t.lookup (dir.join name) = .ok (k, .directory) ∧ k ≠ l

variable {t t' : FileTree} {dir : Path} {l k : Location} {name : String} {n : Node}
  {extensions extensions' : List String}

theorem Shows.node?_ne_none (h : t.Shows dir l name) : t.node? (name :: l) ≠ none := by
  cases h with
  | file hn | linked hn _ | broken hn _ | loop hn _ => simp [hn]

theorem Shows.not_leadsAstray (h : t.Shows dir l name) : ¬t.LeadsAstray dir l name := by
  rintro (hdir | ⟨target, k, hlink, hk, hne⟩)
  · cases h with
    | file hn | linked hn _ | broken hn _ | loop hn _ => simp [hn] at hdir
  · cases h with
    | file hn => simp [hn] at hlink
    | linked _ hlookup | broken _ hlookup => simp [hlookup] at hk
    | loop _ hlookup =>
      obtain ⟨rfl, -⟩ := Prod.mk.inj (Except.ok.inj (hlookup.symm.trans hk))
      exact hne rfl

theorem node?_of_lookup (h : t.lookup dir = .ok (l, n)) : t.node? l = some n := by
  unfold lookup at h
  rcases hloc : t.locate .follow dir with e | place
  · simp [hloc, bind, Except.bind] at h
  · cases place with
    | vacant d name => simp [hloc, bind, Except.bind] at h
    | entry l' =>
      rcases hn : t.node? l' with - | - | content | target
      · simp [hloc, bind, Except.bind, hn] at h
      · obtain ⟨rfl, rfl⟩ : l' = l ∧ .directory = n := by
          simpa [hloc, bind, Except.bind, hn] using h
        exact hn
      · by_cases hslash : endsInSlash dir.text
        · simp [hloc, bind, Except.bind, hn, hslash] at h
        · obtain ⟨rfl, rfl⟩ : l' = l ∧ .file content = n := by
            simpa [hloc, bind, Except.bind, hn, hslash] using h
          exact hn
      · obtain ⟨rfl, rfl⟩ : l' = l ∧ .link target = n := by
          simpa [hloc, bind, Except.bind, hn] using h
        exact hn

theorem isListed_iff (hl : t.IsDirectoryAt l) (hn : t.node? (name :: l) = some n) :
    Scan.isListed extensions ⟨name, t.entryKind l (dir.join name) n⟩ ↔
      Scan.AskedFor extensions name ∧ t.Shows dir l name := by
  have hselects : Scan.selects extensions name ↔ Scan.AskedFor extensions name := Scan.selects_iff
  rcases n with - | content | target
  · refine iff_of_false (by simp [Scan.isListed, entryKind]) ?_
    rintro ⟨-, hshows⟩
    exact hshows.not_leadsAstray (.inl hn)
  · have hshows : t.Shows dir l name := .file hn
    simpa [Scan.isListed, entryKind, hshows] using hselects
  · rcases hlookup : t.lookup (dir.join name) with e | ⟨k, m⟩
    · have hshows : t.Shows dir l name := .broken hn hlookup
      simpa [Scan.isListed, entryKind, hlookup, hshows] using hselects
    · by_cases hfile : ∃ content, m = .file content
      · obtain ⟨content, rfl⟩ := hfile
        have hshows : t.Shows dir l name := .linked hn hlookup
        simpa [Scan.isListed, entryKind, hlookup, hshows] using hselects
      · have hkind : t.entryKind l (dir.join name) (.link target) =
            if k = l then .unknown .loop else .other := by
          cases m with
          | file content => exact absurd ⟨content, rfl⟩ hfile
          | directory | link target' => simp only [entryKind, hlookup]
        rw [hkind]
        by_cases hk : k = l
        · subst hk
          obtain rfl : m = .directory := Option.some.inj ((node?_of_lookup hlookup).symm.trans hl)
          have hshows : t.Shows dir k name := .loop hn hlookup
          simpa [Scan.isListed, hshows] using hselects
        · refine iff_of_false (by simp [Scan.isListed, hk]) ?_
          rintro ⟨-, hshows⟩
          cases hshows with
          | file hn' => simp [hn] at hn'
          | linked _ hlookup' =>
            obtain ⟨-, hm⟩ := Prod.mk.inj (Except.ok.inj (hlookup.symm.trans hlookup'))
            exact hfile ⟨_, hm⟩
          | broken _ hlookup' => simp [hlookup] at hlookup'
          | loop _ hlookup' =>
            exact hk (Prod.mk.inj (Except.ok.inj (hlookup.symm.trans hlookup'))).1

theorem mem_imageNames_iff_shows (hd : (t.entries.map (·.1)).Nodup) (hl : t.IsDirectoryAt l) :
    name ∈ t.imageNames dir l extensions ↔
      Scan.AskedFor extensions name ∧ t.Shows dir l name := by
  unfold imageNames Scan.names Scan.sorted
  simp only [List.mem_map, List.mem_filter, List.mem_mergeSort]
  constructor
  · rintro ⟨e, ⟨⟨⟨name', n⟩, hc, rfl⟩, hlisted⟩, rfl⟩
    have hn := (node?_eq_some_iff hd (List.cons_ne_nil _ _)).2 (mem_children_iff.1 hc)
    exact (isListed_iff hl hn).1 hlisted
  · rintro h
    obtain ⟨n, hn⟩ := Option.ne_none_iff_exists'.1 h.2.node?_ne_none
    have hc := mem_children_iff.2 ((node?_eq_some_iff hd (List.cons_ne_nil _ _)).1 hn)
    exact ⟨_, ⟨⟨(name, n), hc, rfl⟩, (isListed_iff hl hn).2 h⟩, rfl⟩

section

variable (hdir : t'.workDir = t.workDir) (hnode : ∀ k, t'.node? k = t.node? k)
include hnode

theorem resolve_congr (purpose : Purpose) (links : Nat) (cur : Location) (ps : List String) :
    t'.resolve purpose links cur ps = t.resolve purpose links cur ps := by
  have hwalk (cur : Location) (ps : List String) :
      t'.walk purpose cur ps = t.walk purpose cur ps := walk_congr purpose fun l _ => hnode l
  induction links generalizing cur ps with
  | zero => rw [resolve, resolve, hwalk]
  | succ links ih => rw [resolve, resolve, hwalk]; simp only [ih]

include hdir

theorem lookup_eq_of_node? (p : Path) : t'.lookup p = t.lookup p := by
  have hlocate : t'.locate .follow p = t.locate .follow p := by
    rw [locate, locate, hdir, resolve_congr hnode]
  unfold lookup
  simp only [hlocate, hnode]

theorem shows_congr : t'.Shows dir l name ↔ t.Shows dir l name := by
  have hlookup := lookup_eq_of_node? hdir hnode (dir.join name)
  constructor
  · rintro (hn | ⟨hn, h⟩ | ⟨hn, h⟩ | ⟨hn, h⟩) <;> rw [hnode] at hn
    · exact .file hn
    · exact .linked hn (hlookup ▸ h)
    · exact .broken hn (hlookup ▸ h)
    · exact .loop hn (hlookup ▸ h)
  · rintro (hn | ⟨hn, h⟩ | ⟨hn, h⟩ | ⟨hn, h⟩) <;> rw [← hnode] at hn
    · exact .file hn
    · exact .linked hn (hlookup ▸ h)
    · exact .broken hn (hlookup ▸ h)
    · exact .loop hn (hlookup ▸ h)

end

theorem node?_of_perm (hd : (t.entries.map (·.1)).Nodup) (hperm : t'.entries.Perm t.entries)
    (k : Location) : t'.node? k = t.node? k := by
  have hd' : (t'.entries.map (·.1)).Nodup := (hperm.map _).nodup_iff.2 hd
  by_cases hk : k = []
  · rw [hk, node?_nil, node?_nil]
  · apply Option.ext
    intro n
    rw [node?_eq_some_iff hd' hk, node?_eq_some_iff hd hk, hperm.mem_iff]

theorem imageNames_of_perm (hd : (t.entries.map (·.1)).Nodup) (hdir : t'.workDir = t.workDir)
    (hperm : t'.entries.Perm t.entries) (hl : t.IsDirectoryAt l)
    (hext : ∀ entry, entry ∈ extensions' ↔ entry ∈ extensions) :
    t'.imageNames dir l extensions' = t.imageNames dir l extensions := by
  have hd' : (t'.entries.map (·.1)).Nodup := (hperm.map _).nodup_iff.2 hd
  have hnode := node?_of_perm hd hperm
  have hl' : t'.IsDirectoryAt l := (hnode l).trans hl
  refine imageNames_congr hd hd' fun name => ?_
  rw [mem_imageNames_iff_shows hd' hl', mem_imageNames_iff_shows hd hl, Scan.AskedFor.congr hext,
    shows_congr hdir hnode]

structure Scanned (t : FileTree) (dir : Path) (l : Location) (extensions : List String)
    (files : List Path) : Prop where
  mem_iff : ∀ p, p ∈ files ↔ ∃ name, IsEntryName name ∧ p = dir.join name ∧
    Scan.AskedFor extensions name ∧ t.Shows dir l name
  increasing : files.Pairwise Path.Precedes
  nodup : files.Nodup
  not_mem : ∀ name, IsEntryName name → t.LeadsAstray dir l name → dir.join name ∉ files

theorem WellFormed.scanned (h : t.WellFormed) (hl : t.IsDirectoryAt l) :
    t.Scanned dir l extensions ((t.imageNames dir l extensions).map dir.join) := by
  have hmem (name : String) : name ∈ t.imageNames dir l extensions ↔
      Scan.AskedFor extensions name ∧ t.Shows dir l name := mem_imageNames_iff_shows h.distinct hl
  have hentry (name : String) (hname : name ∈ t.imageNames dir l extensions) :
      IsEntryName name := by
    obtain ⟨n, hn⟩ := Option.ne_none_iff_exists'.1 ((hmem name).1 hname).2.node?_ne_none
    exact h.isEntryName hn
  have hnodup := nodup_imageNames h.distinct dir l extensions
  have hincreasing : (t.imageNames dir l extensions).Pairwise (· < ·) := by
    refine (Scan.pairwise_names _ _).imp₂ (fun a b hle hne => ?_) hnodup
    by_contra hlt
    exact hne (String.le_antisymm hle (String.not_lt.1 hlt))
  refine ⟨fun p => ?_, ?_, Path.nodup_map_join dir hentry hnodup, ?_⟩
  · rw [List.mem_map]
    constructor
    · rintro ⟨name, hname, rfl⟩
      exact ⟨name, hentry name hname, rfl, (hmem name).1 hname⟩
    · rintro ⟨name, -, rfl, hasked⟩
      exact ⟨name, (hmem name).2 hasked, rfl⟩
  · rw [List.pairwise_map]
    exact hincreasing.imp_of_mem fun ha hb hlt =>
      Path.precedes_join dir (hentry _ ha) (hentry _ hb) hlt
  · intro name hname hastray hp
    obtain ⟨name', hname', hjoin⟩ := List.mem_map.1 hp
    obtain rfl := Path.join_injective dir (hentry _ hname') hname hjoin
    exact ((hmem _).1 hname').2.not_leadsAstray hastray

end FileTree

def Host.withholding {m : Type → Type} [Monad m] (host : Host m)
    (withheld : Path → Option FileError) : Host m :=
  { host with
    entries := fun p =>
      match withheld p with
      | some e => pure (.error e)
      | none => host.entries p }

namespace Session

variable (filter : Log.Filter) (withheld : Path → Option FileError) (s : Session)
  {dir : Path} {l : Location} (extensions : List String)

theorem yields_listImages_of_not_directory (h : ¬∃ l, s.tree.lookup dir = .ok (l, .directory)) :
    Yields (listImages ((host filter).withholding withheld) dir extensions) s
      (.error (.missing dir)) s.tree := by
  have hdir : s.tree.isDirectory dir = false :=
    Bool.eq_false_iff.2 fun hd => h (FileTree.isDirectory_iff.1 hd)
  have hasked : Yields (((host filter).withholding withheld).isDirectory dir) s false s.tree :=
    ⟨hdir, rfl⟩
  unfold listImages
  exact .bind hasked fun s₁ h₁ => .pure _ h₁

theorem yields_listImages_of_withheld {e : FileError}
    (h : s.tree.lookup dir = .ok (l, .directory)) (hw : withheld dir = some e) :
    Yields (listImages ((host filter).withholding withheld) dir extensions) s
      (.error (.unreadable dir e)) s.tree := by
  have hasked : Yields (((host filter).withholding withheld).isDirectory dir) s true s.tree :=
    ⟨FileTree.isDirectory_iff.2 ⟨l, h⟩, rfl⟩
  unfold listImages
  refine .bind hasked fun s₁ h₁ => ?_
  have hentries : Yields (((host filter).withholding withheld).entries dir) s₁ (.error e) s.tree := by
    simp only [Host.withholding, hw]
    exact .pure _ h₁
  exact .bind hentries fun s₂ h₂ => .pure _ h₂

theorem yields_listImages_of_lookup (h : s.tree.lookup dir = .ok (l, .directory))
    (hw : withheld dir = none) :
    Yields (listImages ((host filter).withholding withheld) dir extensions) s
      (.ok ((s.tree.imageNames dir l extensions).map dir.join)) s.tree := by
  have hasked : Yields (((host filter).withholding withheld).isDirectory dir) s true s.tree :=
    ⟨FileTree.isDirectory_iff.2 ⟨l, h⟩, rfl⟩
  unfold listImages
  refine .bind hasked fun s₁ h₁ => ?_
  have hentries : Yields (((host filter).withholding withheld).entries dir) s₁
      (s.tree.dirEntries dir) s.tree := by
    simp only [Host.withholding, hw]
    exact ⟨by rw [← h₁]; rfl, h₁⟩
  refine .bind hentries fun s₂ h₂ => ?_
  rw [FileTree.dirEntries_eq_ok_iff.2 ⟨l, h, rfl⟩]
  refine .bind (yields_forM_log filter s₂ _) fun s₃ h₃ => ?_
  rw [Scan.paths_eq]
  exact .pure _ (h₃.trans h₂)

/-- A scan fails if the path leads to no directory or the directory cannot be read; otherwise it
lists exactly what it has to, in the order of paths, and in no way by the order in which entries
or extensions come. -/
theorem exact_listImages (filter : Log.Filter) (withheld : Path → Option FileError) (s : Session)
    (dir : Path) (extensions : List String) (hwf : s.tree.WellFormed) :
    ∃ result : Except ScanError (List Path),
      Yields (listImages ((host filter).withholding withheld) dir extensions) s result s.tree ∧
      ((∃ e, result = .error e) ↔
        (¬∃ l, s.tree.lookup dir = .ok (l, .directory)) ∨ withheld dir ≠ none) ∧
      (∀ files, result = .ok files → ∃ l, s.tree.lookup dir = .ok (l, .directory) ∧
        s.tree.Scanned dir l extensions files) ∧
      ∀ (filter' : Log.Filter) (s' : Session) (extensions' : List String),
        s'.tree.workDir = s.tree.workDir → s'.tree.entries.Perm s.tree.entries →
          (∀ entry, entry ∈ extensions' ↔ entry ∈ extensions) →
            Yields (listImages ((host filter').withholding withheld) dir extensions') s' result
              s'.tree := by
  have hlookup {s' : Session} (hdir : s'.tree.workDir = s.tree.workDir)
      (hperm : s'.tree.entries.Perm s.tree.entries) : s'.tree.lookup dir = s.tree.lookup dir :=
    FileTree.lookup_eq_of_node? hdir (FileTree.node?_of_perm hwf.distinct hperm) dir
  by_cases hleads : ∃ l, s.tree.lookup dir = .ok (l, .directory)
  · obtain ⟨l, hl⟩ := hleads
    have hat : s.tree.IsDirectoryAt l := FileTree.node?_of_lookup hl
    rcases hw : withheld dir with - | e
    · refine ⟨_, yields_listImages_of_lookup filter withheld s extensions hl hw, by simp [hl], ?_, ?_⟩
      · rintro files hfiles
        obtain rfl := Except.ok.inj hfiles
        exact ⟨l, hl, hwf.scanned hat⟩
      · intro filter' s' extensions' hdir hperm hext
        have hnames : s'.tree.imageNames dir l extensions' = s.tree.imageNames dir l extensions :=
          FileTree.imageNames_of_perm hwf.distinct hdir hperm hat hext
        have hl' := (hlookup hdir hperm).trans hl
        rw [← hnames]
        exact yields_listImages_of_lookup filter' withheld s' extensions' hl' hw
    · refine ⟨_, yields_listImages_of_withheld filter withheld s extensions hl hw, by simp, ?_, ?_⟩
      · rintro files hfiles
        contradiction
      · intro filter' s' extensions' hdir hperm hext
        have hl' := (hlookup hdir hperm).trans hl
        exact yields_listImages_of_withheld filter' withheld s' extensions' hl' hw
  · refine ⟨_, yields_listImages_of_not_directory filter withheld s extensions hleads,
      by simp [hleads], ?_, ?_⟩
    · rintro files hfiles
      contradiction
    · intro filter' s' extensions' hdir hperm hext
      have hleads' : ¬∃ l, s'.tree.lookup dir = .ok (l, .directory) := by
        rwa [hlookup hdir hperm]
      exact yields_listImages_of_not_directory filter' withheld s' extensions' hleads'

end Session

namespace FileTree

def crossLinked : FileTree where
  workDir := ["work"]
  entries :=
    [(["work"], .directory), (["in", "work"], .directory), ([".png", "in", "work"], .file ⟨#[]⟩),
     (["also.png", "in", "work"], .link "shot.PNG"), (["gone.png", "in", "work"], .link "nowhere"),
     (["loop.png", "in", "work"], .link "."), (["old.png", "in", "work"], .directory),
     (["a.png", "old.png", "in", "work"], .file ⟨#[]⟩), (["shot.PNG", "in", "work"], .file ⟨#[]⟩),
     (["up.png", "in", "work"], .link "..")]

theorem wellFormed_crossLinked : crossLinked.WellFormed where
  distinct := by decide
  named := by
    intro e he
    simp only [crossLinked, List.mem_cons, List.not_mem_nil, or_false] at he
    obtain rfl | rfl | rfl | rfl | rfl | rfl | rfl | rfl | rfl | rfl := he
    · exact ⟨"work", [], rfl, by simp [IsEntryName], rfl⟩
    · exact ⟨"in", ["work"], rfl, by simp [IsEntryName], rfl⟩
    · exact ⟨".png", ["in", "work"], rfl, by simp [IsEntryName], rfl⟩
    · exact ⟨"also.png", ["in", "work"], rfl, by simp [IsEntryName], rfl⟩
    · exact ⟨"gone.png", ["in", "work"], rfl, by simp [IsEntryName], rfl⟩
    · exact ⟨"loop.png", ["in", "work"], rfl, by simp [IsEntryName], rfl⟩
    · exact ⟨"old.png", ["in", "work"], rfl, by simp [IsEntryName], rfl⟩
    · exact ⟨"a.png", ["old.png", "in", "work"], rfl, by simp [IsEntryName], rfl⟩
    · exact ⟨"shot.PNG", ["in", "work"], rfl, by simp [IsEntryName], rfl⟩
    · exact ⟨"up.png", ["in", "work"], rfl, by simp [IsEntryName], rfl⟩

theorem imageNames_crossLinked : crossLinked.imageNames ⟨"in"⟩ ["in", "work"] [" ..Png "] =
    ["also.png", "gone.png", "loop.png", "shot.PNG"] := by
  have hes : ((crossLinked.children ["in", "work"]).map fun c =>
      (⟨c.1, crossLinked.entryKind ["in", "work"] (Path.join ⟨"in"⟩ c.1) c.2⟩ : DirEntry)) =
        [⟨".png", .file⟩, ⟨"also.png", .file⟩, ⟨"gone.png", .unknown (.file .notFound)⟩,
          ⟨"loop.png", .unknown .loop⟩, ⟨"old.png", .other⟩, ⟨"shot.PNG", .file⟩,
          ⟨"up.png", .other⟩] := by
    decide +kernel
  rw [imageNames, hes]
  simp only [Scan.names, Scan.sorted]
  rw [List.mergeSort_of_pairwise (by decide +kernel)]
  decide +kernel

end FileTree

/-- The same four paths whether the entries stand in their order or the other way round. -/
theorem Session.exact_crossLinked :
    FileTree.crossLinked.WellFormed ∧ ∀ s ∈ [FileTree.crossLinked,
      { FileTree.crossLinked with entries := FileTree.crossLinked.entries.reverse }].map start,
        Yields (listImages ((host []).withholding fun _ => none) ⟨"in"⟩ [" ..Png "]) s
          (.ok [⟨"in/also.png"⟩, ⟨"in/gone.png"⟩, ⟨"in/loop.png"⟩, ⟨"in/shot.PNG"⟩]) s.tree := by
  have hwf := FileTree.wellFormed_crossLinked
  obtain ⟨result, hresult, -, -, hsame⟩ := exact_listImages [] (fun _ => none)
    (start FileTree.crossLinked) ⟨"in"⟩ [" ..Png "] hwf
  have hlookup : FileTree.crossLinked.lookup ⟨"in"⟩ = .ok (["in", "work"], .directory) := by rfl
  have hlisted := yields_listImages_of_lookup [] (fun _ => none) (start FileTree.crossLinked)
    [" ..Png "] hlookup rfl
  have hfiles := hresult.1.symm.trans hlisted.1
  have hnames : (start FileTree.crossLinked).tree.imageNames ⟨"in"⟩ ["in", "work"] [" ..Png "] =
      ["also.png", "gone.png", "loop.png", "shot.PNG"] := FileTree.imageNames_crossLinked
  rw [hnames] at hfiles
  refine ⟨hwf, fun s hs => ?_⟩
  have hpaths : result = .ok [⟨"in/also.png"⟩, ⟨"in/gone.png"⟩, ⟨"in/loop.png"⟩, ⟨"in/shot.PNG"⟩] := by
    rw [hfiles]
    decide
  rw [← hpaths]
  simp only [List.map_cons, List.map_nil, List.mem_cons, List.not_mem_nil, or_false] at hs
  obtain rfl | rfl := hs
  · exact hresult
  · exact hsame [] _ _ rfl (List.reverse_perm _) fun _ => .rfl

end Storefront
