import Mathlib.Data.List.Forall2
import Storefront.Proofs.Text.LetterCase
import Storefront.Proofs.Text.Mirror
import Storefront.Text.UpperCase

/-! Letters that are not the lower case of their own upper case, such as the long s. Texts with the
same upper case have the same lower case exactly when these letters stand at the same places. -/

namespace Storefront

namespace LowerCase

/-- The letters that are not the lower case of their own upper case. -/
def variants : List Char :=
  ['µ', 'ı', 'ſ', '\u0345', 'ς', 'ϐ', 'ϑ', 'ϕ', 'ϖ', 'ϰ', 'ϱ', 'ϵ', '\u1C80', '\u1C81', '\u1C82',
   '\u1C83', '\u1C84', '\u1C85', '\u1C86', '\u1C87', '\u1C88', 'ẛ', '\u1FBE']

/-- Most runs of the one table are runs of the other, read backwards. The characters of the few
others are looked up one by one. -/
theorem mirroredBy_or_all : ∀ r ∈ UpperCase.runs, r.MirroredBy runs ∨
    (r.all fun c d => variants.contains c || char d == char c) = true := by
  decide +kernel

theorem char_eq_singleton {c : Char} (h : c ≠ 'İ') : char c = [CaseRun.partner runs c] :=
  if_neg h

theorem upper_dotted : UpperCase.char 'İ' = 'İ' := by decide +kernel

/-- A letter that is no variant is the lower case of its upper case. -/
theorem char_upper {c : Char} (h : c ∉ variants) : char (UpperCase.char c) = char c := by
  rcases CaseRun.partner_cases UpperCase.runs c with hc | ⟨r, hr, hc⟩
  · exact congrArg char hc
  · have hc : r.image? c = some (UpperCase.char c) := hc
    rcases mirroredBy_or_all r hr with hmirror | hall
    · have hlower := hmirror.partner_eq hc
      have hback := hmirror.partner_image hc
      by_cases hdotted : c = 'İ'
      · rw [hdotted, upper_dotted]
      · have himage : UpperCase.char c ≠ 'İ' := by
          intro himage
          have hself : CaseRun.partner runs 'İ' = 'İ' := by decide +kernel
          rw [himage, hself] at hback
          exact hdotted hback.symm
        rw [char_eq_singleton himage, char_eq_singleton hdotted, hlower, hback]
    · have hpair := CaseRun.holds_of_all hall hc
      rw [Bool.or_eq_true, List.contains_iff_mem, beq_iff_eq] at hpair
      exact hpair.resolve_left h

/-- A variant is in lower case itself, and its upper case has another lower case. -/
theorem char_variant {c : Char} (h : c ∈ variants) :
    char c = [c] ∧ char (UpperCase.char c) ≠ [c] := by
  have hall : variants.all (fun c => char c == [c] && char (UpperCase.char c) != [c]) = true := by
    decide +kernel
  have hc := List.all_eq_true.1 hall c h
  rwa [Bool.and_eq_true, beq_iff_eq, bne_iff_ne] at hc

def SameForm (a b : Char) : Prop :=
  a = b ∨ a ∉ variants ∧ b ∉ variants

theorem char_eq_iff {a b : Char} (h : UpperCase.char a = UpperCase.char b) :
    char a = char b ↔ SameForm a b := by
  constructor
  · intro heq
    by_cases ha : a ∈ variants
    · obtain ⟨hown, hupper⟩ := char_variant ha
      by_cases hb : b ∈ variants
      · rw [hown, (char_variant hb).1] at heq
        exact .inl (List.singleton_inj.1 heq)
      · rw [h, char_upper hb, ← heq, hown] at hupper
        exact absurd rfl hupper
    · by_cases hb : b ∈ variants
      · obtain ⟨hown, hupper⟩ := char_variant hb
        rw [← h, char_upper ha, heq, hown] at hupper
        exact absurd rfl hupper
      · exact .inr ⟨ha, hb⟩
  · rintro (rfl | ⟨ha, hb⟩)
    · rfl
    · rw [← char_upper ha, h, char_upper hb]

theorem length_char (c : Char) : (char c).length = if c = 'İ' then 2 else 1 := by
  rw [char]
  split <;> rfl

theorem upper_eq_dotted_iff (c : Char) : UpperCase.char c = 'İ' ↔ c = 'İ' := by
  constructor
  · intro h
    have hno : c ∉ variants := by
      intro hmem
      have hall : variants.all (fun c => UpperCase.char c != 'İ') = true := by decide +kernel
      have hc := List.all_eq_true.1 hall c hmem
      rw [h, bne_self_eq_false] at hc
      exact Bool.false_ne_true hc
    -- Only the dotted capital i becomes two characters.
    have hlength := congrArg List.length (char_upper hno)
    rw [h, length_char, length_char, if_pos rfl] at hlength
    by_contra hc
    rw [if_neg hc] at hlength
    exact absurd hlength (by decide)
  · rintro rfl
    exact upper_dotted

theorem length_char_congr {a b : Char} (h : UpperCase.char a = UpperCase.char b) :
    (char a).length = (char b).length := by
  have hdotted : a = 'İ' ↔ b = 'İ' := by rw [← upper_eq_dotted_iff a, h, upper_eq_dotted_iff]
  simp only [length_char, hdotted]

theorem flatMap_char_eq_iff {s t : List Char} (h : s.map UpperCase.char = t.map UpperCase.char) :
    s.flatMap char = t.flatMap char ↔ List.Forall₂ SameForm s t := by
  induction s generalizing t with
  | nil =>
    obtain rfl := List.map_eq_nil_iff.1 h.symm
    exact iff_of_true rfl .nil
  | cons a s ih =>
    cases t with
    | nil => simp at h
    | cons b t =>
      rw [List.map_cons, List.map_cons, List.cons.injEq] at h
      obtain ⟨hab, hst⟩ := h
      rw [List.flatMap_cons, List.flatMap_cons, List.forall₂_cons, ← char_eq_iff hab, ← ih hst]
      -- Letters with the same upper case become equally many, so the texts stay in step.
      constructor
      · intro heq
        exact List.append_inj heq (length_char_congr hab)
      · rintro ⟨hchar, hrest⟩
        rw [hchar, hrest]

/-- The text with its capital sigmas at the ends of words in the final small form, given what
stands before it, nearest character first. -/
def withFinals (before : List Char) : List Char → List Char
  | [] => []
  | c :: rest =>
    (if c = 'Σ' ∧ endsWord before rest = true then 'ς' else c) :: withFinals (c :: before) rest

theorem chars_eq_flatMap (before s : List Char) :
    chars before s = (withFinals before s).flatMap char := by
  have hfinal : char 'ς' = ['ς'] := by decide +kernel
  have hinner : char 'Σ' = ['σ'] := by decide +kernel
  induction s generalizing before with
  | nil => rfl
  | cons c rest ih =>
    rw [chars, withFinals, List.flatMap_cons, ih]
    congr 1
    by_cases hc : c = 'Σ'
    · subst hc
      cases endsWord before rest <;> simp [hfinal, hinner]
    · rw [if_neg hc, if_neg fun h => hc h.1]

theorem map_upper_withFinals (before s : List Char) :
    (withFinals before s).map UpperCase.char = s.map UpperCase.char := by
  have hfinal : UpperCase.char 'ς' = UpperCase.char 'Σ' := by decide +kernel
  induction s generalizing before with
  | nil => rfl
  | cons c rest ih =>
    rw [withFinals, List.map_cons, List.map_cons, ih]
    split
    next h => rw [h.1, hfinal]
    next => rfl

theorem withFinals_of_not_mem {s : List Char} (h : 'Σ' ∉ s) (before : List Char) :
    withFinals before s = s := by
  induction s generalizing before with
  | nil => rfl
  | cons c rest ih =>
    rw [List.mem_cons, not_or] at h
    rw [withFinals, ih h.2, if_neg fun hc => h.1 hc.1.symm]

end LowerCase

/-- The texts have the same variants at the same places, a capital sigma at the end of a word being
a final one. -/
def SameVariants (s t : String) : Prop :=
  List.Forall₂ LowerCase.SameForm (LowerCase.withFinals [] s.toList)
    (LowerCase.withFinals [] t.toList)

theorem lowerCase_eq_iff {s t : String} (h : SameUpToCase s t) :
    lowerCase s = lowerCase t ↔ SameVariants s t := by
  have hupper : (LowerCase.withFinals [] s.toList).map UpperCase.char =
      (LowerCase.withFinals [] t.toList).map UpperCase.char := by
    rw [LowerCase.map_upper_withFinals, LowerCase.map_upper_withFinals]
    exact h
  rw [lowerCase, lowerCase, String.ofList_inj, LowerCase.chars_eq_flatMap,
    LowerCase.chars_eq_flatMap, LowerCase.flatMap_char_eq_iff hupper, SameVariants]

theorem SameUpToCase.sameVariants {s t : String} (h : SameUpToCase s t)
    (hplain : ∀ c ∈ s.toList ++ t.toList, c ≠ 'Σ' ∧ c ∉ LowerCase.variants) : SameVariants s t := by
  have hs : 'Σ' ∉ s.toList := fun hmem => (hplain _ (List.mem_append_left _ hmem)).1 rfl
  have ht : 'Σ' ∉ t.toList := fun hmem => (hplain _ (List.mem_append_right _ hmem)).1 rfl
  have hlength : s.toList.length = t.toList.length := by
    simpa using congrArg List.length h
  rw [SameVariants, LowerCase.withFinals_of_not_mem hs, LowerCase.withFinals_of_not_mem ht,
    List.forall₂_iff_get]
  refine ⟨hlength, fun i hi hi' => .inr ⟨?_, ?_⟩⟩
  · exact (hplain _ (List.mem_append_left _ (List.get_mem ..))).2
  · exact (hplain _ (List.mem_append_right _ (List.get_mem ..))).2

end Storefront
