import Storefront.Proofs.Path.Order

/-! The parent of a path: its pieces without the last one that says something, and so its components
without the last. -/

namespace Storefront.Path

variable {p : Path} {ps rest : List (List Char)} {first last s : List Char}

theorem glue_cons (first : List Char) (rest : List (List Char)) :
    glue (first :: rest) = first ++ rest.flatMap ('/' :: ·) := by
  induction rest generalizing first with
  | nil => rw [glue, List.flatMap_nil, List.append_nil]
  | cons p ps ih =>
    rw [glue, ih, List.flatMap_cons, List.cons_append]
    simp

theorem glue_pieces (s : List Char) : glue (pieces s) = s := by
  induction s with
  | nil => rfl
  | cons c s ih =>
    obtain ⟨p, ps, hp⟩ := List.exists_cons_of_ne_nil (pieces_ne_nil s)
    rw [hp, glue_cons] at ih
    by_cases hc : c = '/'
    · rw [pieces, if_pos hc, hp, glue_cons, List.flatMap_cons, List.nil_append, List.cons_append, ih,
        hc]
    · simp only [pieces, hc, if_false, hp]
      rw [glue_cons, List.cons_append, ih]

theorem pieces_append_flatMap (hfirst : '/' ∉ first) (hrest : ∀ p ∈ rest, '/' ∉ p) :
    pieces (first ++ rest.flatMap ('/' :: ·)) = first :: rest := by
  induction rest generalizing first with
  | nil => rw [List.flatMap_nil, List.append_nil, pieces_of_slash_not_mem hfirst]
  | cons p ps ih =>
    rw [List.flatMap_cons, List.cons_append, pieces_append, pieces_of_slash_not_mem hfirst,
      ih (hrest p List.mem_cons_self) fun q hq => hrest q (List.mem_cons_of_mem p hq)]
    rfl

theorem pieces_glue (hfirst : '/' ∉ first) (hrest : ∀ p ∈ rest, '/' ∉ p) :
    pieces (glue (first :: rest)) = first :: rest := by
  rw [glue_cons, pieces_append_flatMap hfirst hrest]

/-- The component that the first piece stands for. Empty, it is the root of the pieces after it. -/
def opening (first : List Char) (rest : List (List Char)) : List Component :=
  if first = [] then (if rest = [] then [] else [.root])
  else if first = ['.'] then [.here] else (component? first).toList

theorem head?_eq_slash_iff (h : pieces s = first :: rest) :
    s.head? = some '/' ↔ first = [] ∧ rest ≠ [] := by
  have hfirst : '/' ∉ first := slash_not_mem_of_mem_pieces (h ▸ List.mem_cons_self)
  rw [← glue_pieces s, h, glue_cons]
  rcases first with - | ⟨c, first⟩
  · cases rest <;> simp
  · have hc : c ≠ '/' := fun hc => hfirst (hc ▸ List.mem_cons_self)
    simpa using hc

theorem components_of_pieces (h : pieces p.text.toList = first :: rest) :
    p.components = opening first rest ++ rest.filterMap component? := by
  have hcons : (first :: rest).filterMap component? =
      (component? first).toList ++ rest.filterMap component? := by
    rw [List.filterMap_cons]
    cases component? first <;> rfl
  rw [components_eq, componentsOf, h, hcons, ← List.append_assoc, opening]
  simp only [head?_eq_slash_iff h, List.head?_cons, Option.some.injEq]
  by_cases hempty : first = []
  · by_cases hrest : rest = []
    · simp [hempty, hrest, component?]
    · simp [hempty, hrest, component?]
  · by_cases hdot : first = ['.']
    · simp [hdot, component?]
    · simp [hempty, hdot]

theorem opening_congr {rest' : List (List Char)} (h : first ≠ [] ∨ rest ≠ [] ∧ rest' ≠ []) :
    opening first rest = opening first rest' := by
  unfold opening
  rcases h with h | ⟨h, h'⟩
  · rw [if_neg h, if_neg h]
  · rw [if_neg h, if_neg h']

theorem component?_eq_none_iff {q : List Char} : component? q = none ↔ q = [] ∨ q = ['.'] := by
  unfold component?
  split
  next h => exact iff_of_true rfl h
  next h =>
    refine iff_of_false ?_ h
    split <;> simp

theorem exists_dropQuietEnd (ps : List (List Char)) :
    ∃ quiet, ps = dropQuietEnd ps ++ quiet ∧ ∀ q ∈ quiet, component? q = none := by
  refine ⟨(ps.reverse.takeWhile fun p => (component? p).isNone).reverse, ?_, ?_⟩
  · rw [dropQuietEnd, ← List.reverse_append, List.takeWhile_append_dropWhile, List.reverse_reverse]
  · intro q hq
    exact Option.isNone_iff_eq_none.1
      (List.all_eq_true.1 List.all_takeWhile q (List.mem_reverse.1 hq))

theorem dropQuietEnd_cases (ps : List (List Char)) :
    dropQuietEnd ps = [] ∨
      ∃ init last c, dropQuietEnd ps = init ++ [last] ∧ component? last = some c := by
  unfold dropQuietEnd
  rcases hdrop : ps.reverse.dropWhile fun p => (component? p).isNone with - | ⟨last, init⟩
  · exact .inl rfl
  · have hlast := List.head?_dropWhile_not (fun p => (component? p).isNone) ps.reverse
    rw [hdrop] at hlast
    obtain ⟨c, hc⟩ := Option.isSome_iff_exists.1 (by simpa using hlast : (component? last).isSome)
    exact .inr ⟨init.reverse, last, c, List.reverse_cons, hc⟩

theorem dropQuietEnd_append (ps : List (List Char)) {quiet : List (List Char)}
    (h : ∀ q ∈ quiet, component? q = none) : dropQuietEnd (ps ++ quiet) = dropQuietEnd ps := by
  have hdrop : ∀ q ∈ quiet.reverse, (component? q).isNone = true := by
    intro q hq
    simp [h q (List.mem_reverse.1 hq)]
  rw [dropQuietEnd, List.reverse_append, List.dropWhile_append_of_pos hdrop, dropQuietEnd]

theorem dropQuietEnd_concat (ps : List (List Char)) {c : Component} (h : component? last = some c) :
    dropQuietEnd (ps ++ [last]) = ps ++ [last] := by
  simp [dropQuietEnd, h]

theorem filterMap_dropQuietEnd (ps : List (List Char)) :
    (dropQuietEnd ps).filterMap component? = ps.filterMap component? := by
  obtain ⟨quiet, hps, hquiet⟩ := exists_dropQuietEnd ps
  calc (dropQuietEnd ps).filterMap component?
    _ = (dropQuietEnd ps ++ quiet).filterMap component? := by
      rw [List.filterMap_append, List.filterMap_eq_nil_iff.2 hquiet, List.append_nil]
    _ = ps.filterMap component? := by rw [← hps]

theorem mem_of_mem_dropQuietEnd {q : List Char} (h : q ∈ dropQuietEnd ps) : q ∈ ps := by
  obtain ⟨quiet, hps, -⟩ := exists_dropQuietEnd ps
  rw [hps]
  exact List.mem_append_left quiet h

theorem parent?_of_quiet (hp : pieces p.text.toList = first :: rest)
    (hrest : dropQuietEnd rest = []) :
    p.parent? = if first = [] then none else some ⟨""⟩ := by
  unfold parent?
  rw [hp]
  simp only [hrest]

theorem parent?_of_kept (hp : pieces p.text.toList = first :: rest) {init : List (List Char)}
    (hrest : dropQuietEnd rest = init ++ [last]) :
    p.parent? = some (if dropQuietEnd init = [] then ⟨if first = [] then "/" else String.ofList first⟩
      else ⟨String.ofList (glue (first :: dropQuietEnd init))⟩) := by
  have hinit : (init ++ [last]).dropLast = init := List.dropLast_concat
  rcases hkept : init ++ [last] with - | ⟨q, qs⟩
  · simp at hkept
  · rw [hkept] at hrest hinit
    unfold parent?
    rw [hp]
    simp only [hrest, hinit]
    cases dropQuietEnd init <;> rfl

theorem components_above {above : List (List Char)} (hfirst : '/' ∉ first)
    (habove : ∀ q ∈ above, '/' ∉ q) (hrest : rest ≠ []) :
    (if above = [] then (⟨if first = [] then "/" else String.ofList first⟩ : Path)
      else ⟨String.ofList (glue (first :: above))⟩).components =
      opening first rest ++ above.filterMap component? := by
  by_cases hnil : above = []
  · rw [if_pos hnil, hnil, List.filterMap_nil, List.append_nil]
    by_cases hempty : first = []
    · rw [if_pos hempty, opening, if_pos hempty, if_neg hrest]
      rfl
    · have hsingle : pieces (String.ofList first).toList = [first] := by
        rw [String.toList_ofList, pieces_of_slash_not_mem hfirst]
      rw [if_neg hempty, components_of_pieces (p := ⟨String.ofList first⟩) hsingle,
        List.filterMap_nil, List.append_nil, opening_congr (.inl hempty)]
  · have hglue : pieces (String.ofList (glue (first :: above))).toList = first :: above := by
      rw [String.toList_ofList, pieces_glue hfirst habove]
    rw [if_neg hnil, components_of_pieces (p := ⟨String.ofList (glue (first :: above))⟩) hglue,
      opening_congr (.inr ⟨hnil, hrest⟩)]

theorem opening_of_ne_nil (rest : List (List Char)) (h : first ≠ []) : ∃ c, opening first rest = [c] := by
  rw [opening, if_neg h]
  by_cases hdot : first = ['.']
  · exact ⟨.here, if_pos hdot⟩
  · obtain ⟨c, hc⟩ := Option.ne_none_iff_exists'.1
      (mt component?_eq_none_iff.1 (not_or.2 ⟨h, hdot⟩))
    exact ⟨c, by rw [if_neg hdot, hc, Option.toList_some]⟩

/-- The last component is what a path has more than its parent, and only the root and the empty path
have none. -/
theorem parent?_cases (p : Path) :
    (p.parent? = none ∧ (p.components = [] ∨ p.components = [.root])) ∨
      ∃ above c, p.parent? = some above ∧ p.components = above.components ++ [c] := by
  obtain ⟨first, rest, hp⟩ := List.exists_cons_of_ne_nil (pieces_ne_nil p.text.toList)
  have hslash : ∀ q ∈ first :: rest, '/' ∉ q := fun q hq => slash_not_mem_of_mem_pieces (hp ▸ hq)
  rw [components_of_pieces hp, ← filterMap_dropQuietEnd rest]
  obtain hrest | ⟨init, last, c, hrest, hlast⟩ := dropQuietEnd_cases rest
  · -- The first piece alone says something, if it does.
    rw [parent?_of_quiet hp hrest, hrest, List.filterMap_nil, List.append_nil]
    by_cases hempty : first = []
    · refine .inl ⟨if_pos hempty, ?_⟩
      rw [opening, if_pos hempty]
      split
      · exact .inl rfl
      · exact .inr rfl
    · obtain ⟨c, hc⟩ := opening_of_ne_nil rest hempty
      exact .inr ⟨⟨""⟩, c, if_neg hempty, hc⟩
  · have hne : rest ≠ [] := by
      rintro rfl
      simp [dropQuietEnd] at hrest
    have habove : ∀ q ∈ dropQuietEnd init, '/' ∉ q := by
      intro q hq
      apply hslash q
      apply List.mem_cons_of_mem
      apply mem_of_mem_dropQuietEnd
      rw [hrest]
      exact List.mem_append_left _ (mem_of_mem_dropQuietEnd hq)
    have hlast : [last].filterMap component? = [c] := by
      rw [List.filterMap_cons, hlast, List.filterMap_nil]
    refine .inr ⟨_, c, parent?_of_kept hp hrest, ?_⟩
    rw [components_above (hslash first List.mem_cons_self) habove hne, hrest, List.filterMap_append,
      hlast, ← List.append_assoc, filterMap_dropQuietEnd init]

theorem parent?_join (dir : Path) {name : String} (h : IsEntryName name) :
    ∃ above, (dir.join name).parent? = some above ∧ above.components = dir.components := by
  have hcomponents := components_join dir h
  obtain ⟨-, hempty | hroot⟩ | ⟨above, c, hparent, habove⟩ := parent?_cases (dir.join name)
  · simp [hcomponents] at hempty
  · have hlast := List.append_eq_singleton_iff.1 (hcomponents.symm.trans hroot)
    simp at hlast
  · exact ⟨above, hparent, (List.append_inj' (habove.symm.trans hcomponents) rfl).1⟩

end Storefront.Path
