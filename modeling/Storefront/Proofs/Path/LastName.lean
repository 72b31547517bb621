import Storefront.Proofs.Path.Parent

/-! The last name of a path, read off its text: it stands between the last slash that counts and the
slashes and single dots at the end. -/

namespace Storefront.Path

variable {p : Path} {name : String} {front last tail : List Char}

def IsFront (front : List Char) : Prop :=
  front = [] ∨ ∃ s, front = s ++ ['/']

/-- Slashes, each alone or before a single dot. -/
def IsQuiet (tail : List Char) : Prop :=
  ∃ quiet : List (List Char), (∀ q ∈ quiet, q = [] ∨ q = ['.']) ∧ tail = quiet.flatMap ('/' :: ·)

/-- The text of a path around its last piece that counts. -/
structure Parts (p : Path) (front last tail : List Char) : Prop where
  text : p.text.toList = front ++ last ++ tail
  front : IsFront front
  last : '/' ∉ last
  tail : IsQuiet tail

/-- With the slashes and single dots at its end left aside, the path ends in the name of an entry. -/
def EndsIn (p : Path) (name : String) : Prop :=
  IsEntryName name ∧ ∃ front tail, p.Parts front name.toList tail

/-- With the slashes and single dots at its end left aside, the path is empty, a single dot, or ends
in a step up. -/
def EndsNameless (p : Path) : Prop :=
  ∃ front last tail, p.Parts front last tail ∧
    (front = [] ∧ (last = [] ∨ last = ['.']) ∨ last = ['.', '.'])

theorem Parts.pieces_eq (h : p.Parts front last tail) :
    ∃ ps quiet, pieces p.text.toList = ps ++ last :: quiet ∧ (ps = [] ↔ front = []) ∧
      (∀ q ∈ quiet, component? q = none) ∧ tail = quiet.flatMap ('/' :: ·) := by
  obtain ⟨quiet, hquiet, htail⟩ := h.tail
  have hslash : ∀ q ∈ quiet, '/' ∉ q := by
    intro q hq
    rcases hquiet q hq with rfl | rfl <;> decide
  have hpieces := pieces_append_flatMap h.last hslash
  have hnone : ∀ q ∈ quiet, component? q = none := fun q hq =>
    component?_eq_none_iff.2 (hquiet q hq)
  rw [h.text, htail]
  rcases h.front with hfront | ⟨s, hs⟩
  · refine ⟨[], quiet, ?_, by simp [hfront], hnone, rfl⟩
    rw [hfront, List.nil_append, List.nil_append, hpieces]
  · refine ⟨pieces s, quiet, ?_, by simp [hs, pieces_ne_nil], hnone, rfl⟩
    rw [hs, List.append_assoc, List.append_assoc, List.singleton_append, pieces_append, hpieces]

theorem exists_parts (p : Path) :
    ∃ front last tail, p.Parts front last tail ∧ (component? last = none → front = []) := by
  obtain ⟨first, rest, hp⟩ := List.exists_cons_of_ne_nil (pieces_ne_nil p.text.toList)
  obtain ⟨quiet, hrest, hquiet⟩ := exists_dropQuietEnd rest
  have htext : p.text.toList = first ++ rest.flatMap ('/' :: ·) := by
    rw [← glue_cons, ← hp, glue_pieces]
  have htail : IsQuiet (quiet.flatMap ('/' :: ·)) :=
    ⟨quiet, fun q hq => component?_eq_none_iff.1 (hquiet q hq), rfl⟩
  obtain hnil | ⟨init, last, c, hlast, hc⟩ := dropQuietEnd_cases rest
  · rw [hnil, List.nil_append] at hrest
    refine ⟨[], first, _, ⟨by rw [htext, hrest, List.nil_append], .inl rfl, ?_, htail⟩, fun _ => rfl⟩
    exact slash_not_mem_of_mem_pieces (hp ▸ List.mem_cons_self)
  · refine ⟨first ++ init.flatMap ('/' :: ·) ++ ['/'], last, _, ⟨?_, .inr ⟨_, rfl⟩, ?_, htail⟩, ?_⟩
    · rw [htext, hrest, hlast]
      simp
    · have hmem : last ∈ rest := mem_of_mem_dropQuietEnd (hlast ▸ List.mem_concat_self)
      exact slash_not_mem_of_mem_pieces (hp ▸ List.mem_cons_of_mem _ hmem)
    · simp [hc]

theorem Parts.getLast?_components (h : p.Parts front last tail) {c : Component}
    (hc : component? last = some c) : p.components.getLast? = some c := by
  obtain ⟨ps, quiet, hpieces, -, hquiet, -⟩ := h.pieces_eq
  rw [components_eq, componentsOf, hpieces, List.filterMap_append, List.filterMap_cons, hc,
    List.filterMap_eq_nil_iff.2 hquiet]
  simp

theorem fileName?_of_first (h : p.Parts [] last tail) (hlast : component? last = none) :
    p.fileName? = none := by
  obtain ⟨ps, quiet, hpieces, hps, hquiet, -⟩ := h.pieces_eq
  rw [hps.2 rfl, List.nil_append] at hpieces
  rw [fileName?, components_of_pieces hpieces, List.filterMap_eq_nil_iff.2 hquiet, List.append_nil,
    opening]
  rcases component?_eq_none_iff.1 hlast with rfl | rfl
  · cases quiet <;> rfl
  · rfl

theorem component?_eq_some_cases {c : Component} (hslash : '/' ∉ last)
    (h : component? last = some c) :
    (last = ['.', '.'] ∧ c = .up) ∨
      ∃ name, last = name.toList ∧ IsEntryName name ∧ c = .name name := by
  have hcases := h
  unfold component? at hcases
  split at hcases
  · simp at hcases
  · split at hcases
    next hup => exact .inl ⟨hup, (Option.some.inj hcases).symm⟩
    next =>
      obtain rfl := Option.some.inj hcases
      exact .inr ⟨_, String.toList_ofList.symm, isEntryName_of_component? hslash h, rfl⟩

theorem EndsIn.fileName?_eq (h : p.EndsIn name) : p.fileName? = some name := by
  obtain ⟨hname, front, tail, hparts⟩ := h
  rw [fileName?, hparts.getLast?_components (component?_of_isEntryName hname)]

theorem EndsNameless.fileName?_eq (h : p.EndsNameless) : p.fileName? = none := by
  obtain ⟨front, last, tail, hparts, ⟨rfl, hlast⟩ | rfl⟩ := h
  · exact fileName?_of_first hparts (component?_eq_none_iff.2 hlast)
  · rw [fileName?, hparts.getLast?_components (c := .up) rfl]

theorem endsNameless_or_endsIn (p : Path) : p.EndsNameless ∨ ∃ name, p.EndsIn name := by
  obtain ⟨front, last, tail, hparts, hfront⟩ := exists_parts p
  rcases hc : component? last with - | c
  · exact .inl ⟨front, last, tail, hparts, .inl ⟨hfront hc, component?_eq_none_iff.1 hc⟩⟩
  · obtain ⟨hup, -⟩ | ⟨name, rfl, hname, -⟩ := component?_eq_some_cases hparts.last hc
    · exact .inl ⟨front, last, tail, hparts, .inr hup⟩
    · exact .inr ⟨name, hname, front, tail, hparts⟩

theorem fileName?_eq_some_iff : p.fileName? = some name ↔ p.EndsIn name := by
  refine ⟨fun h => ?_, EndsIn.fileName?_eq⟩
  obtain hnameless | ⟨own, hown⟩ := endsNameless_or_endsIn p
  · rw [hnameless.fileName?_eq] at h
    simp at h
  · rw [hown.fileName?_eq] at h
    exact Option.some.inj h ▸ hown

theorem fileName?_eq_none_iff : p.fileName? = none ↔ p.EndsNameless := by
  refine ⟨fun h => ?_, EndsNameless.fileName?_eq⟩
  obtain hnameless | ⟨name, hname⟩ := endsNameless_or_endsIn p
  · exact hnameless
  · rw [hname.fileName?_eq] at h
    simp at h

theorem Parts.body_eq (h : p.Parts front last tail) {c : Component}
    (hc : component? last = some c) : p.body = front ++ last := by
  obtain ⟨ps, quiet, hpieces, hps, hquiet, htail⟩ := h.pieces_eq
  unfold body
  rcases ps with - | ⟨first, ps⟩
  · rw [hpieces, List.nil_append, hps.1 rfl, List.nil_append]
    have hnil : dropQuietEnd quiet = [] := dropQuietEnd_append [] hquiet
    simp only [hnil, glue]
  · have hglue : first ++ (ps ++ [last]).flatMap ('/' :: ·) ++ tail = front ++ last ++ tail := by
      rw [← h.text, ← glue_pieces p.text.toList, hpieces, List.cons_append, glue_cons, htail]
      simp
    have hkept : dropQuietEnd (ps ++ last :: quiet) = ps ++ [last] := by
      rw [List.append_cons, dropQuietEnd_append _ hquiet, dropQuietEnd_concat ps hc]
    rw [hpieces, List.cons_append]
    simp only [hkept, glue_cons]
    exact List.append_cancel_right hglue

theorem isFront_lead (dir : Path) : IsFront dir.lead :=
  (lead_cases dir).imp And.left id

theorem parts_join (dir : Path) (h : IsEntryName name) :
    (dir.join name).Parts dir.lead name.toList [] where
  text := by rw [toList_join dir h, List.append_nil]
  front := isFront_lead dir
  last := h.2.2.2
  tail := ⟨[], by simp, rfl⟩

end Storefront.Path
