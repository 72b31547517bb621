import Storefront.Proofs.Path.Join
import Storefront.Batch.OutputPath

/-! Lower case of texts in parts: letter case does not look across a slash, and does not tell the
two forms of an ASCII letter apart. -/

namespace Storefront

namespace CharClass

def Misses (k : CharClass) (lo hi : Nat) : Prop :=
  ∀ i ∈ k, i.2 < lo ∨ hi < i.1

instance (k : CharClass) (lo hi : Nat) : Decidable (k.Misses lo hi) :=
  inferInstanceAs (Decidable (∀ i ∈ k, _))

theorem Misses.contains_eq_false {k : CharClass} {lo hi : Nat} (h : k.Misses lo hi) {c : Char}
    (hlo : lo ≤ c.toNat) (hhi : c.toNat ≤ hi) : k.contains c = false := by
  rw [← Bool.not_eq_true, contains_iff]
  rintro ⟨i, hi', h1, h2⟩
  rcases h i hi' with h | h <;> omega

end CharClass

theorem toLower_cases (c : Char) :
    c.toLower = c ∨ 0x41 ≤ c.toNat ∧ c.toNat ≤ 0x5A ∧ c.toLower.toNat = c.toNat + 32 := by
  unfold Char.toLower
  split
  next h =>
    have h1 : 0x41 ≤ c.toNat := by simpa [UInt32.le_iff_toNat_le] using h.1
    have h2 : c.toNat ≤ 0x5A := by simpa [UInt32.le_iff_toNat_le] using h.2
    refine .inr ⟨h1, h2, ?_⟩
    show (c.val + ('a'.val - 'A'.val)).toNat = c.val.toNat + 32
    have h3 : c.val.toNat ≤ 0x5A := h2
    have h4 : ('a'.val - 'A'.val).toNat = 32 := by decide
    rw [UInt32.toNat_add]
    omega
  next => exact .inl rfl

namespace LowerCase

theorem caseIgnorable_toLower (c : Char) :
    CharClass.caseIgnorable.contains c.toLower = CharClass.caseIgnorable.contains c := by
  have hcapital : CharClass.caseIgnorable.Misses 0x41 0x5A := by decide +kernel
  have hsmall : CharClass.caseIgnorable.Misses 0x61 0x7A := by decide +kernel
  rcases toLower_cases c with h | ⟨h1, h2, h3⟩
  · rw [h]
  · rw [hcapital.contains_eq_false h1 h2, hsmall.contains_eq_false (by omega) (by omega)]

theorem cased_toLower (c : Char) :
    CharClass.cased.contains c.toLower = CharClass.cased.contains c := by
  have hcapital : (0x41, 0x5A) ∈ CharClass.cased := List.mem_cons_self
  have hsmall : (0x61, 0x7A) ∈ CharClass.cased := List.mem_cons_of_mem _ List.mem_cons_self
  rcases toLower_cases c with h | ⟨h1, h2, h3⟩
  · rw [h]
  · rw [CharClass.contains_iff.2 ⟨_, hcapital, h1, h2⟩,
      CharClass.contains_iff.2 ⟨_, hsmall, by omega, by omega⟩]

theorem partner_of_capital {c : Char} (h1 : 0x41 ≤ c.toNat) (h2 : c.toNat ≤ 0x5A) :
    CaseRun.partner runs c = Char.ofNat (c.toNat + 32) := by
  have himage : (⟨0x41, 0x5A, 1, 0x61⟩ : CaseRun).image? c = some (Char.ofNat (c.toNat + 32)) := by
    rw [CaseRun.image?, if_pos ⟨h1, h2, Nat.mod_one _⟩]
    congr 2
    show 0x61 + (c.toNat - 0x41) = c.toNat + 32
    omega
  rw [CaseRun.partner, runs, List.findSome?_cons, himage]
  rfl

theorem partner_of_small {c : Char} (h1 : 0x61 ≤ c.toNat) (h2 : c.toNat ≤ 0x7A) :
    CaseRun.partner runs c = c := by
  have hruns : ∀ r ∈ runs, r.last < 0x61 ∨ 0x7A < r.first := by decide +kernel
  have hnone : runs.findSome? (·.image? c) = none := by
    rw [List.findSome?_eq_none_iff]
    intro r hr
    rw [CaseRun.image?, if_neg]
    rcases hruns r hr with h | h <;> omega
  rw [CaseRun.partner, hnone, Option.getD_none]

theorem char_toLower (c : Char) : char c.toLower = char c := by
  rcases toLower_cases c with h | ⟨h1, h2, h3⟩
  · rw [h]
  · have hne {d : Char} (hd : d.toNat ≤ 0x7A) : d ≠ 'İ' := by
      rintro rfl
      revert hd
      decide
    have heq : Char.ofNat (c.toNat + 32) = c.toLower := by rw [← h3, Char.ofNat_toNat]
    rw [char, char, if_neg (hne (by omega)), if_neg (hne (by omega)),
      partner_of_small (by omega) (by omega), partner_of_capital h1 h2, heq]

theorem toLower_eq_sigma_iff (c : Char) : c.toLower = 'Σ' ↔ c = 'Σ' := by
  rcases toLower_cases c with h | ⟨h1, h2, h3⟩
  · rw [h]
  · have hne {d : Char} (hd : d.toNat ≤ 0x7A) : d ≠ 'Σ' := by
      rintro rfl
      revert hd
      decide
    exact iff_of_false (hne (by omega)) (hne (by omega))

theorem meetsCased_cons (c : Char) (s : List Char) : meetsCased (c :: s) =
    if CharClass.caseIgnorable.contains c then meetsCased s else CharClass.cased.contains c := by
  unfold meetsCased
  rw [List.dropWhile_cons]
  cases CharClass.caseIgnorable.contains c <;> rfl

theorem meetsCased_map_toLower (s : List Char) : meetsCased (s.map Char.toLower) = meetsCased s := by
  induction s with
  | nil => rfl
  | cons c s ih =>
    rw [List.map_cons, meetsCased_cons, meetsCased_cons, caseIgnorable_toLower, cased_toLower, ih]

theorem chars_map_toLower (before s : List Char) :
    chars (before.map Char.toLower) (s.map Char.toLower) = chars before s := by
  induction s generalizing before with
  | nil => rfl
  | cons c s ih =>
    have htail := ih (c :: before)
    rw [List.map_cons] at htail
    -- The final sigma is decided by what is cased around it, which the letter case does not change.
    have hends : endsWord (before.map Char.toLower) (s.map Char.toLower) = endsWord before s := by
      rw [endsWord, endsWord, meetsCased_map_toLower, meetsCased_map_toLower]
    rw [List.map_cons, chars, chars, htail, hends, char_toLower]
    by_cases hc : c = 'Σ'
    · rw [if_pos hc, if_pos ((toLower_eq_sigma_iff c).2 hc)]
    · rw [if_neg hc, if_neg fun h => hc ((toLower_eq_sigma_iff c).1 h)]

theorem meetsCased_append_slash (s rest : List Char) :
    meetsCased (s ++ '/' :: rest) = meetsCased s := by
  induction s with
  | nil =>
    -- A slash is not cased, and it is not passed over either: the search ends there.
    have h1 : CharClass.caseIgnorable.contains '/' = false := by decide +kernel
    have h2 : CharClass.cased.contains '/' = false := by decide +kernel
    rw [List.nil_append, meetsCased_cons, h1, if_neg Bool.false_ne_true, h2]
    rfl
  | cons c s ih => rw [List.cons_append, meetsCased_cons, meetsCased_cons, ih]

theorem chars_before_slash (before rest s : List Char) :
    chars (before ++ '/' :: rest) s = chars before s := by
  induction s generalizing before with
  | nil => rfl
  | cons c s ih =>
    have htail := ih (c :: before)
    rw [List.cons_append] at htail
    rw [chars, chars, htail, endsWord, endsWord, meetsCased_append_slash]

theorem char_slash : char '/' = ['/'] := by decide +kernel

theorem chars_append_slash (before s rest : List Char) :
    chars before (s ++ '/' :: rest) = chars before s ++ '/' :: chars [] rest := by
  induction s generalizing before with
  | nil =>
    have hne : ('/' : Char) ≠ 'Σ' := by decide
    have hrest := chars_before_slash [] before rest
    rw [List.nil_append] at hrest
    show chars before ('/' :: rest) = '/' :: chars [] rest
    rw [chars, if_neg hne, char_slash, hrest, List.singleton_append]
  | cons c s ih =>
    rw [List.cons_append, chars, chars, ih, endsWord, endsWord, meetsCased_append_slash,
      List.append_assoc]

end LowerCase

theorem lowerCase_eq_of_lowerAscii_eq {s t : String}
    (h : s.toList.map Char.toLower = t.toList.map Char.toLower) : lowerCase s = lowerCase t := by
  have hs := LowerCase.chars_map_toLower [] s.toList
  have ht := LowerCase.chars_map_toLower [] t.toList
  rw [h] at hs
  rw [lowerCase, lowerCase, ← hs, ← ht]

theorem toList_collisionKey_join (dir : Path) {name : String} (h : IsEntryName name) :
    (collisionKey (dir.join name)).toList =
      LowerCase.chars [] dir.lead ++ LowerCase.chars [] name.toList := by
  rw [collisionKey, lowerCase, String.toList_ofList, Path.toList_join dir h]
  rcases Path.lead_cases dir with ⟨hl, -⟩ | ⟨s, hl⟩
  · rw [hl]
    rfl
  · rw [hl, List.append_assoc, List.singleton_append, LowerCase.chars_append_slash,
      LowerCase.chars_append_slash]
    simp [LowerCase.chars]

theorem collisionKey_join_eq_iff (dir : Path) {a b : String} (ha : IsEntryName a)
    (hb : IsEntryName b) :
    collisionKey (dir.join a) = collisionKey (dir.join b) ↔ lowerCase a = lowerCase b := by
  rw [← String.toList_inj, toList_collisionKey_join dir ha, toList_collisionKey_join dir hb,
    List.append_cancel_left_eq, ← String.toList_inj, lowerCase, lowerCase, String.toList_ofList,
    String.toList_ofList]

end Storefront
