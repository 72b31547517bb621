import Storefront.Files.WellFormed

/-! Names put below a directory: the pieces of the joined text, its steps, and its last name. -/

namespace Storefront.Path

theorem eq_of_toList {p q : Path} (h : p.text.toList = q.text.toList) : p = q := by
  cases p
  cases q
  exact congrArg mk (String.toList_inj.1 h)

theorem pieces_ne_nil (s : List Char) : pieces s ≠ [] := by
  cases s with
  | nil => simp [pieces]
  | cons c s =>
    simp only [pieces]
    split
    · simp
    · split <;> simp

theorem pieces_append (s rest : List Char) : pieces (s ++ '/' :: rest) = pieces s ++ pieces rest := by
  induction s with
  | nil => simp [pieces]
  | cons c s ih =>
    by_cases hc : c = '/'
    · simp only [List.cons_append, pieces, hc, if_true, ih]
    · obtain ⟨p, ps, hp⟩ := List.exists_cons_of_ne_nil (pieces_ne_nil s)
      simp only [List.cons_append, pieces, hc, if_false, ih, hp]

theorem pieces_of_slash_not_mem {s : List Char} (h : '/' ∉ s) : pieces s = [s] := by
  induction s with
  | nil => rfl
  | cons c s ih =>
    rw [List.mem_cons, not_or] at h
    simp only [pieces, Ne.symm h.1, if_false, ih h.2]

theorem slash_not_mem_of_mem_pieces {s p : List Char} (h : p ∈ pieces s) : '/' ∉ p := by
  induction s generalizing p with
  | nil =>
    obtain rfl : p = [] := by simpa [pieces] using h
    simp
  | cons c s ih =>
    simp only [pieces] at h
    split at h
    next =>
      rcases List.mem_cons.1 h with rfl | h
      · simp
      · exact ih h
    next hc =>
      -- The character is put before the first of the other pieces.
      obtain ⟨q, qs, hq⟩ := List.exists_cons_of_ne_nil (pieces_ne_nil s)
      rw [hq] at h ih
      rcases List.mem_cons.1 h with rfl | h
      · rw [List.mem_cons, not_or]
        exact ⟨Ne.symm hc, ih List.mem_cons_self⟩
      · exact ih (List.mem_cons_of_mem q h)

theorem isEntryName_of_long {name : String} (h : 3 ≤ name.toList.length) (hslash : '/' ∉ name.toList) :
    IsEntryName name := by
  have ne (s : String) (hs : s.toList.length < 3) : name ≠ s := by
    rintro rfl
    omega
  exact ⟨ne "" (by decide), ne "." (by decide), ne ".." (by decide), hslash⟩

theorem head?_ne_of_isEntryName {name : String} (h : IsEntryName name) :
    name.toList.head? ≠ some '/' :=
  fun hs => h.2.2.2 (List.mem_of_mem_head? (Option.mem_def.2 hs))

def lead (dir : Path) : List Char :=
  if dir.text = "" ∨ dir.text.toList.getLast? = some '/' then dir.text.toList
  else dir.text.toList ++ ['/']

theorem toList_join (dir : Path) {name : String} (h : IsEntryName name) :
    (dir.join name).text.toList = dir.lead ++ name.toList := by
  unfold join lead
  rw [if_neg (head?_ne_of_isEntryName h)]
  split <;> simp

theorem lead_cases (dir : Path) : dir.lead = [] ∧ dir.text = "" ∨ ∃ s, dir.lead = s ++ ['/'] := by
  unfold lead
  split
  next h =>
    rcases h with h | h
    · exact .inl ⟨by rw [h, String.toList_empty], h⟩
    · exact .inr (List.getLast?_eq_some_iff.1 h)
  next => exact .inr ⟨_, rfl⟩

theorem mem_of_mem_lead {dir : Path} {c : Char} (h : c ∈ dir.lead) : c ∈ dir.text.toList ∨ c = '/' := by
  unfold lead at h
  split at h
  · exact .inl h
  · exact (List.mem_append.1 h).imp_right List.mem_singleton.1

theorem filter_pieces_lead (dir : Path) (rest : List Char) :
    (pieces (dir.lead ++ rest)).filter (· ≠ []) =
      (pieces dir.text.toList).filter (· ≠ []) ++ (pieces rest).filter (· ≠ []) := by
  unfold lead
  split
  next h =>
    rcases h with h | h
    · simp [h, pieces]
    · obtain ⟨s, hs⟩ := List.getLast?_eq_some_iff.1 h
      rw [hs, List.append_assoc, List.singleton_append, pieces_append, pieces_append]
      simp [pieces]
  next =>
    rw [List.append_assoc, List.singleton_append, pieces_append, List.filter_append]

theorem steps_join (dir : Path) {name : String} (h : IsEntryName name) :
    FileTree.steps (dir.join name).text = FileTree.steps dir.text ++ [name] := by
  have hne : name.toList ≠ [] := fun he => h.1 (String.toList_eq_nil_iff.1 he)
  unfold FileTree.steps
  rw [toList_join dir h, filter_pieces_lead, pieces_of_slash_not_mem h.2.2.2, List.map_append]
  simp [hne, String.ofList_toList]

theorem endsInSlash_join (dir : Path) {name : String} (h : IsEntryName name) :
    FileTree.endsInSlash (dir.join name).text = false := by
  obtain ⟨c, s, hs⟩ := List.exists_cons_of_ne_nil fun he => h.1 (String.toList_eq_nil_iff.1 he)
  have hlast : name.toList.getLast? ≠ some '/' := fun hl =>
    h.2.2.2 (List.mem_of_getLast? hl)
  rw [FileTree.endsInSlash, toList_join dir h, List.getLast?_append]
  simp only [hs] at hlast ⊢
  rw [List.getLast?_cons] at hlast ⊢
  simpa using hlast

theorem text_join_ne_empty (dir : Path) {name : String} (h : IsEntryName name) :
    (dir.join name).text ≠ "" := by
  intro he
  have := toList_join dir h
  rw [he, String.toList_empty] at this
  exact h.1 (String.toList_eq_nil_iff.1 (List.append_eq_nil_iff.1 this.symm).2)

theorem start_join (cur : Location) (dir : Path) {name : String} (h : IsEntryName name) :
    FileTree.start cur (dir.join name).text = FileTree.start cur dir.text := by
  unfold FileTree.start
  rw [toList_join dir h]
  unfold lead
  split
  next hd =>
    rcases hd with hd | hd
    · simp [hd, head?_ne_of_isEntryName h]
    · obtain ⟨s, hs⟩ := List.getLast?_eq_some_iff.1 hd
      rw [hs]
      cases s <;> simp
  next hd =>
    rw [not_or] at hd
    obtain ⟨c, s, hs⟩ := List.exists_cons_of_ne_nil fun he => hd.1 (String.toList_eq_nil_iff.1 he)
    simp [hs]

theorem component?_of_isEntryName {name : String} (h : IsEntryName name) :
    component? name.toList = some (.name name) := by
  have ne {s : String} (hs : name ≠ s) : name.toList ≠ s.toList := fun he =>
    hs (String.toList_inj.1 he)
  have h0 : name.toList ≠ [] := ne h.1
  have h1 : name.toList ≠ ['.'] := ne h.2.1
  have h2 : name.toList ≠ ['.', '.'] := ne h.2.2.1
  simp [component?, h0, h1, h2, String.ofList_toList]

theorem isEntryName_of_component? {p : List Char} {n : String} (hp : '/' ∉ p)
    (h : component? p = some (.name n)) : IsEntryName n := by
  simp only [component?] at h
  split at h
  · simp at h
  next h1 =>
    split at h
    · simp at h
    next h2 =>
      obtain rfl : String.ofList p = n := by simpa using h
      rw [not_or] at h1
      refine ⟨fun he => h1.1 ?_, fun he => h1.2 ?_, fun he => h2 ?_, by simpa using hp⟩
      · simpa using congrArg String.toList he
      · simpa using congrArg String.toList he
      · simpa using congrArg String.toList he

theorem isEntryName_of_fileName? {p : Path} {n : String} (h : p.fileName? = some n) :
    IsEntryName n := by
  have hlast : p.components.getLast? = some (.name n) := by
    unfold fileName? at h
    split at h <;> simp_all
  have hmem := List.mem_of_getLast? hlast
  simp only [components, List.mem_append, List.mem_filterMap] at hmem
  rcases hmem with hmem | ⟨piece, hpiece, hc⟩
  · split at hmem
    · simp at hmem
    · split at hmem <;> simp at hmem
  · exact isEntryName_of_component? (slash_not_mem_of_mem_pieces hpiece) hc

theorem fileName?_join (dir : Path) {name : String} (h : IsEntryName name) :
    (dir.join name).fileName? = some name := by
  have hpieces : ∃ ps, pieces (dir.join name).text.toList = ps ++ [name.toList] := by
    rw [toList_join dir h]
    rcases lead_cases dir with ⟨hl, -⟩ | ⟨s, hl⟩
    · exact ⟨[], by rw [hl, List.nil_append, pieces_of_slash_not_mem h.2.2.2, List.nil_append]⟩
    · refine ⟨pieces s, ?_⟩
      rw [hl, List.append_assoc, List.singleton_append, pieces_append,
        pieces_of_slash_not_mem h.2.2.2]
  obtain ⟨ps, hps⟩ := hpieces
  have hlast : (dir.join name).components.getLast? = some (.name name) := by
    simp only [components, hps, List.filterMap_append, List.filterMap_cons,
      component?_of_isEntryName h, List.filterMap_nil, List.getLast?_append,
      List.getLast?_singleton, Option.some_or]
  rw [fileName?, hlast]

theorem join_injective (dir : Path) {a b : String} (ha : IsEntryName a) (hb : IsEntryName b)
    (h : dir.join a = dir.join b) : a = b := by
  have hname := congrArg fileName? h
  rw [fileName?_join dir ha, fileName?_join dir hb] at hname
  exact Option.some.inj hname

theorem nodup_map_join (dir : Path) {names : List String} (h : ∀ name ∈ names, IsEntryName name)
    (hnodup : names.Nodup) : (names.map dir.join).Nodup := by
  rw [List.nodup_iff_pairwise_ne, List.pairwise_map]
  apply (List.nodup_iff_pairwise_ne.1 hnodup).imp_of_mem
  intro a b ha hb hne heq
  exact hne (join_injective dir (h a ha) (h b hb) heq)

theorem eq_singleton_of_perm (dir : Path) {names : List String} {name : String}
    (h : ∀ n ∈ names, IsEntryName n) (hname : IsEntryName name)
    (hperm : (names.map dir.join).Perm [dir.join name]) : names = [name] := by
  rw [List.perm_singleton, List.map_eq_singleton_iff] at hperm
  obtain ⟨n, rfl, hpath⟩ := hperm
  rw [join_injective dir (h n (List.mem_singleton_self n)) hname hpath]

end Storefront.Path
