import Storefront.Proofs.Path.Join

/-! The order of paths: the first component that differs decides. -/

namespace Storefront.Path

namespace Component

def rank : Component → Nat
  | .root => 0
  | .here => 1
  | .up => 2
  | .name _ => 3

/-- Names come last, and among themselves in the order of their characters. -/
inductive Precedes : Component → Component → Prop
  | rank {a b : Component} : a.rank < b.rank → Precedes a b
  | name {m n : String} : m < n → Precedes (.name m) (.name n)

end Component

def Precedes (p q : Path) : Prop :=
  List.Lex Component.Precedes p.components q.components

def componentsOf (s : List Char) : List Component :=
  (if s.head? = some '/' then [.root] else if (pieces s).head? = some ['.'] then [.here] else []) ++
    (pieces s).filterMap component?

theorem components_eq (p : Path) : p.components = componentsOf p.text.toList := by
  simp only [components, isAbsolute, componentsOf, beq_iff_eq]

theorem head?_pieces_append (s rest : List Char) :
    (pieces (s ++ '/' :: rest)).head? = (pieces s).head? := by
  obtain ⟨q, qs, hq⟩ := List.exists_cons_of_ne_nil (pieces_ne_nil s)
  rw [pieces_append, hq]
  rfl

theorem componentsOf_append {s : List Char} (hs : s ≠ []) (rest : List Char) :
    componentsOf (s ++ '/' :: rest) = componentsOf s ++ (pieces rest).filterMap component? := by
  have hhead : (s ++ '/' :: rest).head? = s.head? := by
    obtain ⟨c, s, rfl⟩ := List.exists_cons_of_ne_nil hs
    rfl
  unfold componentsOf
  rw [hhead, head?_pieces_append, pieces_append, List.filterMap_append, List.append_assoc]

theorem filterMap_pieces_name {name : String} (h : IsEntryName name) :
    (pieces name.toList).filterMap component? = [.name name] := by
  rw [pieces_of_slash_not_mem h.2.2.2, List.filterMap_cons, component?_of_isEntryName h,
    List.filterMap_nil]

theorem components_join (dir : Path) {name : String} (h : IsEntryName name) :
    (dir.join name).components = dir.components ++ [.name name] := by
  have hhead := head?_ne_of_isEntryName h
  have hdot : name.toList ≠ ['.'] := fun he => h.2.1 (String.toList_inj.1 he)
  have hfirst : (pieces name.toList).head? ≠ some ['.'] := by
    rw [pieces_of_slash_not_mem h.2.2.2]
    simpa using hdot
  have hnil : (pieces []).filterMap component? = [] := rfl
  rw [components_eq, components_eq, toList_join dir h]
  unfold lead
  split
  next hd =>
    rcases hd with hd | hd
    · have halone : componentsOf name.toList = [.name name] := by
        rw [componentsOf, if_neg hhead, if_neg hfirst, List.nil_append, filterMap_pieces_name h]
      rw [hd, String.toList_empty, List.nil_append, halone]
      rfl
    · obtain ⟨s, hs⟩ := List.getLast?_eq_some_iff.1 hd
      rw [hs, List.append_assoc, List.singleton_append]
      rcases s with - | ⟨c, s⟩
      · simp [componentsOf, pieces, component?, filterMap_pieces_name h]
      · rw [componentsOf_append (List.cons_ne_nil c s), componentsOf_append (List.cons_ne_nil c s),
          filterMap_pieces_name h, hnil, List.append_nil]
  next hd =>
    have hne : dir.text.toList ≠ [] := fun he => hd (.inl (String.toList_eq_nil_iff.1 he))
    rw [List.append_assoc, List.singleton_append, componentsOf_append hne, filterMap_pieces_name h]

theorem precedes_join (dir : Path) {a b : String} (ha : IsEntryName a) (hb : IsEntryName b)
    (h : a < b) : (dir.join a).Precedes (dir.join b) := by
  unfold Precedes
  rw [components_join dir ha, components_join dir hb]
  induction dir.components with
  | nil => exact .rel (.name h)
  | cons c cs ih => exact .cons ih

end Storefront.Path
