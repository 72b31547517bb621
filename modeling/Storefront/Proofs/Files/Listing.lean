import Storefront.Proofs.Files.Folder
import Storefront.Session

/-! What a listing of a directory gives in a tree without links: the selected names of its files,
each once. -/

namespace Storefront

namespace FileTree

variable {t : FileTree} {dir : Path} {l k : Location} {n : Node} {es : List DirEntry}

theorem node?_eq_some_iff (hd : (t.entries.map (·.1)).Nodup) (hk : k ≠ []) :
    t.node? k = some n ↔ (k, n) ∈ t.entries := by
  rw [node?, if_neg hk]
  generalize t.entries = es at hd
  induction es with
  | nil => simp
  | cons e es ih =>
    obtain ⟨a, b⟩ := e
    rw [List.map_cons, List.nodup_cons] at hd
    rw [List.lookup_cons, List.mem_cons]
    by_cases h : k = a
    · subst h
      have hout : (k, n) ∉ es := fun hm => hd.1 (List.mem_map.2 ⟨_, hm, rfl⟩)
      simp [hout, eq_comm]
    · rw [beq_false_of_ne h]
      simp only [Prod.mk.injEq, h, false_and, false_or]
      exact ih hd.2

theorem perm_entries {t t' : FileTree} (hd : (t.entries.map (·.1)).Nodup)
    (hd' : (t'.entries.map (·.1)).Nodup) (hroot : ∀ e ∈ t.entries, e.1 ≠ [])
    (hroot' : ∀ e ∈ t'.entries, e.1 ≠ []) (h : ∀ k, t'.node? k = t.node? k) :
    t'.entries.Perm t.entries := by
  have nodup {es : List (Location × Node)} (hes : (es.map (·.1)).Nodup) : es.Nodup :=
    List.Pairwise.of_map _ (fun a b hne heq => hne (congrArg _ heq)) hes
  refine (List.perm_ext_iff_of_nodup (nodup hd') (nodup hd)).2 ?_
  intro e
  obtain ⟨k, n⟩ := e
  constructor
  · intro he
    have hk := hroot' _ he
    rwa [← node?_eq_some_iff hd hk, ← h, node?_eq_some_iff hd' hk]
  · intro he
    have hk := hroot _ he
    rwa [← node?_eq_some_iff hd' hk, h, node?_eq_some_iff hd hk]

theorem mem_children_iff {name : String} : (name, n) ∈ t.children l ↔ (name :: l, n) ∈ t.entries := by
  unfold children
  rw [List.mem_filterMap]
  constructor
  · rintro ⟨⟨k, m⟩, he, h⟩
    rcases k with - | ⟨piece, d⟩
    · simp at h
    · by_cases hd : d = l
      · obtain ⟨rfl, rfl⟩ : piece = name ∧ m = n := by simpa [hd] using h
        rwa [← hd]
      · simp [hd] at h
  · intro he
    exact ⟨_, he, by simp⟩

theorem nodup_children (hd : (t.entries.map (·.1)).Nodup) (l : Location) :
    ((t.children l).map (·.1)).Nodup := by
  unfold children
  generalize t.entries = es at hd
  induction es with
  | nil => simp
  | cons e es ih =>
    rw [List.map_cons, List.nodup_cons] at hd
    obtain ⟨k, n⟩ := e
    rcases k with - | ⟨piece, d⟩
    · simpa using ih hd.2
    · by_cases hdl : d = l
      · subst hdl
        simp only [List.filterMap_cons, if_true, List.map_cons, List.nodup_cons]
        refine ⟨fun hm => hd.1 ?_, ih hd.2⟩
        obtain ⟨⟨name, m⟩, hc, rfl⟩ := List.mem_map.1 hm
        have hmem : (name, m) ∈ FileTree.children ⟨[], es⟩ d := hc
        exact List.mem_map.2 ⟨_, mem_children_iff.1 hmem, rfl⟩
      · simpa [hdl] using ih hd.2

theorem dirEntries_eq_ok_iff : t.dirEntries dir = .ok es ↔
    ∃ l, t.lookup dir = .ok (l, .directory) ∧
      es = (t.children l).map fun c => ⟨c.1, t.entryKind l (dir.join c.1) c.2⟩ := by
  unfold dirEntries
  rcases hl : t.lookup dir with e | ⟨l, n⟩
  · simp [bind, Except.bind]
  · rcases n with - | c | target
    · simp [bind, Except.bind, pure, Except.pure, eq_comm]
    · simp [bind, Except.bind]
    · simp [bind, Except.bind]

end FileTree

def Scan.names (extensions : List String) (es : List DirEntry) : List String :=
  ((sorted es).filter (isListed extensions)).map (·.name)

theorem Scan.paths_eq (dir : Path) (extensions : List String) (es : List DirEntry) :
    paths dir extensions es = (names extensions es).map dir.join := by
  rw [names, List.map_map]
  rfl

theorem Scan.pairwise_names (extensions : List String) (es : List DirEntry) :
    (names extensions es).Pairwise (· ≤ ·) := by
  have htrans (a b c : DirEntry) (hab : decide (a.name ≤ b.name)) (hbc : decide (b.name ≤ c.name)) :
      decide (a.name ≤ c.name) :=
    decide_eq_true (String.le_trans (of_decide_eq_true hab) (of_decide_eq_true hbc))
  have htotal (a b : DirEntry) : decide (a.name ≤ b.name) || decide (b.name ≤ a.name) := by
    simpa using String.le_total a.name b.name
  have hsorted : (sorted es).Pairwise fun a b => a.name ≤ b.name :=
    (List.pairwise_mergeSort htrans htotal es).imp of_decide_eq_true
  exact List.pairwise_map.2 (hsorted.filter _)

def FileTree.imageNames (t : FileTree) (dir : Path) (l : Location) (extensions : List String) :
    List String :=
  Scan.names extensions ((t.children l).map fun c => ⟨c.1, t.entryKind l (dir.join c.1) c.2⟩)

theorem FileTree.mem_imageNames_iff {t : FileTree} (hlf : t.LinkFree)
    (hd : (t.entries.map (·.1)).Nodup) {dir : Path} {l : Location} {extensions : List String}
    {name : String} :
    name ∈ t.imageNames dir l extensions ↔
      Scan.selects extensions name ∧ ∃ c, t.node? (name :: l) = some (.file c) := by
  unfold imageNames Scan.names Scan.sorted
  simp only [List.mem_map, List.mem_filter, List.mem_mergeSort]
  constructor
  · rintro ⟨e, ⟨⟨⟨name', n⟩, hc, rfl⟩, hlisted⟩, rfl⟩
    have hentry := mem_children_iff.1 hc
    rcases n with - | c | target
    · simp [Scan.isListed, entryKind] at hlisted
    · exact ⟨hlisted, c, (node?_eq_some_iff hd (List.cons_ne_nil _ _)).2 hentry⟩
    · exact absurd rfl (hlf _ hentry target)
  · rintro ⟨hs, c, hn⟩
    have hentry := (node?_eq_some_iff hd (List.cons_ne_nil _ _)).1 hn
    exact ⟨_, ⟨⟨(name, .file c), mem_children_iff.2 hentry, rfl⟩, hs⟩, rfl⟩

theorem FileTree.nodup_imageNames {t : FileTree} (hd : (t.entries.map (·.1)).Nodup) (dir : Path)
    (l : Location) (extensions : List String) : (t.imageNames dir l extensions).Nodup := by
  have hperm : ((Scan.sorted ((t.children l).map fun c =>
      (⟨c.1, t.entryKind l (dir.join c.1) c.2⟩ : DirEntry))).map (·.name)).Perm
      ((t.children l).map (·.1)) := by
    have := (List.mergeSort_perm ((t.children l).map fun c =>
      (⟨c.1, t.entryKind l (dir.join c.1) c.2⟩ : DirEntry)) fun a b => a.name ≤ b.name).map (·.name)
    rwa [List.map_map] at this
  exact ((hperm.nodup_iff.2 (nodup_children hd l))).sublist (List.filter_sublist.map _)

theorem FileTree.imageNames_congr {t t' : FileTree} (hd : (t.entries.map (·.1)).Nodup)
    (hd' : (t'.entries.map (·.1)).Nodup) {dir : Path} {l : Location}
    {extensions extensions' : List String}
    (h : ∀ name, name ∈ t'.imageNames dir l extensions' ↔ name ∈ t.imageNames dir l extensions) :
    t'.imageNames dir l extensions' = t.imageNames dir l extensions := by
  have hperm := (List.perm_ext_iff_of_nodup (nodup_imageNames hd' dir l extensions')
    (nodup_imageNames hd dir l extensions)).2 h
  exact hperm.eq_of_pairwise (fun a b _ _ => String.le_antisymm) (Scan.pairwise_names _ _)
    (Scan.pairwise_names _ _)

def FileTree.listImages (t : FileTree) (dir : Path) (extensions : List String) :
    Except ScanError (List Path) :=
  if t.isDirectory dir then
    match t.dirEntries dir with
    | .error e => .error (.unreadable dir e)
    | .ok es => .ok (Scan.paths dir extensions es)
  else .error (.missing dir)

namespace FileTree

variable {t t' : FileTree} {dir : Path} {l : Location} {name : String} {n : Node}
  {extensions : List String} {files : List Path}

theorem listImages_of_lookup (h : t.lookup dir = .ok (l, .directory)) (extensions : List String) :
    t.listImages dir extensions = .ok ((t.imageNames dir l extensions).map dir.join) := by
  have hdir : t.isDirectory dir = true := by rw [isDirectory, h]
  have hes := dirEntries_eq_ok_iff.2 ⟨l, h, rfl⟩
  rw [listImages, if_pos hdir, hes, imageNames, ← Scan.paths_eq]

theorem listed_of_lookup (hlf : t.LinkFree) (hd : (t.entries.map (·.1)).Nodup)
    (h : t.lookup dir = .ok (l, .directory)) (extensions : List String) :
    ∃ names : List String, t.listImages dir extensions = .ok (names.map dir.join) ∧ names.Nodup ∧
      ∀ name, name ∈ names ↔
        Scan.selects extensions name ∧ ∃ c, t.node? (name :: l) = some (.file c) :=
  ⟨_, listImages_of_lookup h extensions, nodup_imageNames hd dir l extensions,
    fun _ => mem_imageNames_iff hlf hd⟩

theorem lookup_of_listImages (h : t.listImages dir extensions = .ok files) :
    ∃ l, t.lookup dir = .ok (l, .directory) := by
  unfold listImages at h
  split at h
  · rcases hes : t.dirEntries dir with e | es
    · simp [hes] at h
    · obtain ⟨l, hl, -⟩ := dirEntries_eq_ok_iff.1 hes
      exact ⟨l, hl⟩
  · contradiction

theorem names_of_listImages (hlf : t.LinkFree) (hd : (t.entries.map (·.1)).Nodup)
    (h : t.listImages dir extensions = .ok files) :
    ∃ l, ∃ names : List String, t.folder dir = .ok l ∧ t.IsDirectoryAt l ∧ files = names.map dir.join ∧
      names.Nodup ∧ ∀ name, name ∈ names ↔
        Scan.selects extensions name ∧ ∃ c, t.node? (name :: l) = some (.file c) := by
  obtain ⟨l, hl⟩ := lookup_of_listImages h
  obtain ⟨hfolder, hdir⟩ := folder_of_lookup hlf hl
  obtain ⟨names, hlist, hnodup, hnames⟩ := listed_of_lookup hlf hd hl extensions
  exact ⟨l, names, hfolder, hdir, Except.ok.inj (h.symm.trans hlist), hnodup, hnames⟩

theorem listImages_congr (hlf : t.LinkFree) (hlf' : t'.LinkFree) (hd : (t.entries.map (·.1)).Nodup)
    (hd' : (t'.entries.map (·.1)).Nodup) (h : t.lookup dir = .ok (l, .directory))
    (h' : t'.lookup dir = .ok (l, .directory))
    (hfiles : ∀ name, (∃ c, t'.node? (name :: l) = some (.file c)) ↔
      ∃ c, t.node? (name :: l) = some (.file c)) (extensions : List String) :
    t'.listImages dir extensions = t.listImages dir extensions := by
  have hnames : t'.imageNames dir l extensions = t.imageNames dir l extensions := by
    refine imageNames_congr hd hd' fun name => ?_
    rw [mem_imageNames_iff hlf hd, mem_imageNames_iff hlf' hd', hfiles]
  rw [listImages_of_lookup h, listImages_of_lookup h', hnames]

theorem node?_of_children_nil (hd : (t.entries.map (·.1)).Nodup) (h : t.children l = [])
    (name : String) : t.node? (name :: l) = none := by
  rcases hn : t.node? (name :: l) with - | n
  · rfl
  · have hmem := mem_children_iff.2 ((node?_eq_some_iff hd (List.cons_ne_nil _ _)).1 hn)
    rw [h] at hmem
    contradiction

theorem WellFormed.isEntryName (h : t.WellFormed) (hn : t.node? (name :: l) = some n) :
    IsEntryName name := by
  have hmem := (node?_eq_some_iff h.distinct (List.cons_ne_nil _ _)).1 hn
  obtain ⟨name', dir, he, hname, -⟩ := h.named _ hmem
  rwa [(List.cons.inj he).1]

end FileTree
end Storefront
