import Storefront.Proofs.Json.Numbers
import Storefront.Proofs.Json.Strings

/-! Texts without parts: how they begin, and that their readers look at nothing else. -/

namespace Storefront.Json

open Reader Format

variable {t u : List Char} {c : Char}

theorem IsNumber.head (h : IsNumber t) : ∃ c u, t = c :: u ∧ (c = '-' ∨ c.isDigit = true) := by
  obtain ⟨hsign, hwhole, -, -⟩ := h
  obtain rfl | rfl := hsign
  · obtain ⟨d, back, rfl, hd⟩ := hwhole.head
    exact ⟨d, _, rfl, .inr hd⟩
  · exact ⟨'-', _, rfl, .inl rfl⟩

structure OpensToken (c : Char) : Prop where
  opens : Opens c
  list : c ≠ '['
  object : c ≠ '\x7b'

theorem opensToken_number (h : c = '-' ∨ c.isDigit = true) : OpensToken c := by
  obtain rfl | hc := h
  · exact ⟨⟨rfl, by decide, by decide⟩, by decide, by decide⟩
  · exact ⟨opens_of_isDigit hc, ne_of_isDigit hc rfl, ne_of_isDigit hc rfl⟩

inductive TokenFrom : Char → List Char → Prop
  | null : TokenFrom 'n' "ull".toList
  | true : TokenFrom 't' "rue".toList
  | false : TokenFrom 'f' "alse".toList
  | number {c : Char} {u : List Char} (hc : c = '-' ∨ c.isDigit = Bool.true) (h : IsNumber (c :: u)) :
      TokenFrom c u
  | string {body : List Char} (h : IsStringBody body) : TokenFrom '"' (body ++ ['"'])

theorem IsToken.tokenFrom (h : IsToken t) : ∃ c u, t = c :: u ∧ TokenFrom c u := by
  cases h with
  | null => exact ⟨'n', _, rfl, .null⟩
  | true => exact ⟨'t', _, rfl, .true⟩
  | false => exact ⟨'f', _, rfl, .false⟩
  | number h =>
    obtain ⟨c, u, rfl, hc⟩ := h.head
    exact ⟨c, u, rfl, .number hc h⟩
  | string h => exact ⟨'"', _, rfl, .string h⟩

namespace TokenFrom

theorem opensToken (h : TokenFrom c u) : OpensToken c := by
  cases h with
  | number hc => exact opensToken_number hc
  | null | true | false | string => exact ⟨⟨rfl, by decide, by decide⟩, by decide, by decide⟩

theorem ne_of_number {x : Char} (hc : c = '-' ∨ c.isDigit = Bool.true) (hx : x.isDigit = Bool.false)
    (hminus : x ≠ '-') : c ≠ x := by
  obtain rfl | hc := hc
  · exact hminus.symm
  · exact ne_of_isDigit hc hx

theorem reads_skipToken (h : TokenFrom c u) : Reads Ends (skipToken c) (c :: u) none := by
  unfold skipToken
  cases h with
  | null => exact .eat_bind ((Reads.word _).map (.pure none))
  | true => exact .eat_bind ((Reads.word _).map (.pure none))
  | false => exact .eat_bind ((Reads.word _).map (.pure none))
  | number hc h =>
    rw [if_neg (ne_of_number hc rfl (by decide)), if_neg (ne_of_number hc rfl (by decide)),
      if_neg (ne_of_number hc rfl (by decide)), if_pos hc]
    exact (reads_skip h).map (.pure none)
  | string h => exact .eat_bind ((reads_skipString h).map (.pure none))

theorem decided_plainValue (h : TokenFrom c u) : Decided Ends (plainValue c) (c :: u) := by
  unfold plainValue
  cases h with
  | null => exact (Reads.eat_bind ((Reads.word _).map (.pure Kept.null))).decided
  | true => exact (Reads.eat_bind ((Reads.word _).map (.pure (Kept.boolean _)))).decided
  | false => exact (Reads.eat_bind ((Reads.word _).map (.pure (Kept.boolean _)))).decided
  | number hc h =>
    rw [if_neg (ne_of_number hc rfl (by decide)), if_neg (ne_of_number hc rfl (by decide)),
      if_neg (ne_of_number hc rfl (by decide)), if_pos hc]
    exact ((decided_number h).map_pure Kept.number).decided
  | string h => exact (Means.eat_bind ((means_stringBody h).map_pure Kept.string)).decided

end TokenFrom

theorem IsValue.startsValue (h : IsValue t) : StartsValue t := by
  cases h with
  | token h =>
    obtain ⟨c, u, rfl, hfrom⟩ := h.tokenFrom
    exact ⟨c, u, rfl, hfrom.opensToken.opens⟩
  | list => exact ⟨'[', _, rfl, rfl, by decide, by decide⟩
  | object => exact ⟨'\x7b', _, rfl, rfl, by decide, by decide⟩

end Storefront.Json
