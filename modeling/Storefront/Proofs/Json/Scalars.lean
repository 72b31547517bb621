import Storefront.Proofs.Json.Reading

/-! Written strings and whole numbers are read back. -/

namespace Storefront.Json

open Reader

section Strings

variable {P : List Char → Prop} {t : List Char} {c : Char} {cs : List Char}

theorem reads_hexEscape {x y z w : Char} {n : Nat} (h : fourHex? x y z w = some n) :
    Reads P hexEscape [x, y, z, w] n := by
  intro rest p _
  refine ⟨[x, y, z, w].foldl Cursor.moved p, ?_⟩
  simp only [List.cons_append, List.nil_append, hexEscape, h]

theorem fourHex?_control : ∀ n < 32, fourHex? '0' '0' (hexChar (n / 16)) (hexChar (n % 16)) = some n := by
  decide

theorem reads_escape_simple {x : Char} (h : simpleEscape? x = some c) : Reads P escape [x] c := by
  unfold escape
  apply Reads.peek_bind
  simp only [h]
  exact Reads.eat_bind (.pure c)

theorem reads_escape_control (h : isControl c = true) :
    Reads P escape ['u', '0', '0', hexChar (c.toNat / 16), hexChar (c.toNat % 16)] c := by
  have hlt : c.toNat < 32 := of_decide_eq_true h
  have htrailing : isTrailing c.toNat = false := by
    simp only [isTrailing, Bool.and_eq_false_iff, decide_eq_false_iff_not]
    omega
  have hleading : isLeading c.toNat = false := by
    simp only [isLeading, Bool.and_eq_false_iff, decide_eq_false_iff_not]
    omega
  have hunicode : Reads P unicodeEscape ['0', '0', hexChar (c.toNat / 16), hexChar (c.toNat % 16)] c := by
    unfold unicodeEscape
    refine (reads_hexEscape (fourHex?_control c.toNat hlt)).map ?_
    simp only [htrailing, hleading, Bool.false_eq_true, if_false, Char.ofNat_toNat]
    exact .pure c
  unfold escape
  apply Reads.peek_bind
  simp only [simpleEscape?, if_true]
  exact Reads.eat_bind hunicode

theorem reads_stringRest_escaped {fuel : Nat} {e : List Char} (he : Reads (fun _ => True) escape e c)
    (h : Reads P (stringRest fuel) t cs) :
    Reads P (stringRest (fuel + 1)) ('\\' :: e ++ t) (c :: cs) := by
  unfold stringRest
  apply Reads.peek_bind
  simp only [if_true, show ¬ '\\' = '"' by decide, if_false]
  exact Reads.eat_bind (he.bind (h.map (.pure _)) fun _ _ => trivial)

theorem reads_stringRest_char {fuel : Nat} (h : Reads P (stringRest fuel) t cs) :
    Reads P (stringRest (fuel + 1)) (writeChar c ++ t) (c :: cs) := by
  unfold writeChar
  split
  case h_8 hquote hbackslash _ _ _ _ _ =>
    split
    next hcontrol => exact reads_stringRest_escaped (reads_escape_control hcontrol) h
    next hplain =>
      unfold stringRest
      apply Reads.peek_bind
      dsimp only
      rw [if_neg hquote, if_neg hbackslash, if_neg hplain]
      exact Reads.eat_bind (h.map (.pure _))
  all_goals exact reads_stringRest_escaped (reads_escape_simple rfl) h

theorem reads_stringRest (cs : List Char) {fuel : Nat} (hfuel : cs.length < fuel) :
    Reads P (stringRest fuel) (cs.flatMap writeChar ++ ['"']) cs := by
  induction cs generalizing fuel with
  | nil =>
    obtain ⟨fuel, rfl⟩ := Nat.exists_eq_add_of_lt hfuel
    unfold stringRest
    exact Reads.peek_bind (Reads.eat_bind (.pure []))
  | cons c cs ih =>
    obtain ⟨fuel, rfl⟩ : ∃ n, fuel = n + 1 := ⟨fuel - 1, by omega⟩
    rw [List.flatMap_cons, List.append_assoc]
    exact reads_stringRest_char (ih (Nat.lt_of_succ_lt_succ hfuel))

theorem length_le_length_written (cs : List Char) : cs.length ≤ (cs.flatMap writeChar).length := by
  induction cs with
  | nil => exact Nat.le_refl 0
  | cons c cs ih =>
    have hchar : 0 < (writeChar c).length := by
      unfold writeChar
      split
      case h_8 => split <;> exact Nat.succ_pos _
      all_goals exact Nat.succ_pos _
    rw [List.flatMap_cons, List.length_append, List.length_cons]
    omega

theorem reads_stringBody (s : String) :
    Reads P stringBody (s.toList.flatMap writeChar ++ ['"']) s := by
  unfold stringBody
  apply Reads.remaining_bind
  intro n hn
  have hlength := length_le_length_written s.toList
  rw [List.length_append] at hn
  refine (reads_stringRest s.toList (by omega)).map ?_
  rw [String.ofList_toList]
  exact .pure s

end Strings

section Numbers

open Number

variable {c : Char} {ds : List Char}

theorem Stops.cases (h : Stops c) : c = ',' ∨ c = ']' ∨ c = '\x7d' ∨
    c = ' ' ∨ c = '\n' ∨ c = '\t' ∨ c = '\r' := by
  simpa [Stops, isSpace, or_assoc] using h

theorem Stops.not_isDigit (h : Stops c) : c.isDigit = false := by
  obtain rfl | rfl | rfl | rfl | rfl | rfl | rfl := h.cases <;> rfl

theorem Stops.not_isExponentMark (h : Stops c) : isExponentMark c = false := by
  obtain rfl | rfl | rfl | rfl | rfl | rfl | rfl := h.cases <;> rfl

theorem Stops.ne_point (h : Stops c) : c ≠ '.' := by
  obtain rfl | rfl | rfl | rfl | rfl | rfl | rfl := h.cases <;> decide

theorem le_ofDigitChars (ds : List Char) (n : Nat) : n ≤ Nat.ofDigitChars 10 ds n := by
  induction ds generalizing n with
  | nil => exact Nat.le_refl n
  | cons d ds ih =>
    rw [Nat.ofDigitChars_cons]
    have h := ih (10 * n + (d.toNat - '0'.toNat))
    omega

theorem reads_readDigits (hds : ∀ d ∈ ds, d.isDigit = true) (n count : Nat)
    (hmax : Nat.ofDigitChars 10 ds n ≤ maxUnsigned) {fuel : Nat} (hfuel : ds.length ≤ fuel) :
    Reads Ends (readDigits fuel n count) ds
      (Nat.ofDigitChars 10 ds n, count + ds.length, false) := by
  induction ds generalizing n count fuel with
  | nil =>
    cases fuel with
    | zero => exact .pure _
    | succ fuel =>
      unfold readDigits
      apply Reads.peek_stops
      intro next hnext
      cases next with
      | none => exact .pure _
      | some c =>
        simp only [(hnext c rfl).not_isDigit, Bool.false_eq_true, if_false]
        exact .pure _
  | cons d ds ih =>
    obtain ⟨fuel, rfl⟩ : ∃ m, fuel = m + 1 := ⟨fuel - 1, by simp at hfuel; omega⟩
    have hd : d.isDigit = true := hds d (List.mem_cons_self ..)
    have hle : 10 * n + digitOf d ≤ maxUnsigned :=
      Nat.le_trans (le_ofDigitChars ds (10 * n + digitOf d)) hmax
    have hrest := ih (fun d hd => hds d (List.mem_cons_of_mem _ hd)) (10 * n + digitOf d) (count + 1)
      hmax (Nat.le_of_succ_le_succ hfuel)
    rw [Nat.add_right_comm] at hrest
    unfold readDigits
    apply Reads.peek_bind
    simp only [hd, if_true, if_neg (Nat.not_lt.2 hle)]
    exact Reads.eat_bind hrest

theorem reads_isNext_digit : Reads Ends (isNext Char.isDigit) [] false := by
  unfold isNext
  apply Reads.peek_stops
  intro next hnext
  have hdigit : next.any Char.isDigit = false := by
    cases next with
    | none => rfl
    | some c => exact (hnext c rfl).not_isDigit
  rw [hdigit]
  exact .pure false

theorem reads_readTail (n : Nat) : Reads Ends (readTail false n) [] (.integer n) := by
  unfold readTail
  apply Reads.peek_stops
  intro next hnext
  split
  next => exact absurd rfl (hnext '.' rfl).ne_point
  next c _ =>
    simp only [(hnext c rfl).not_isExponentMark, Bool.false_eq_true, if_false]
    exact .pure _
  next => exact .pure _

theorem head_toDigits (n : Nat) : ∃ c ds, Nat.toDigits 10 n = c :: ds ∧ (c = '0' → n = 0) := by
  induction n using Nat.strongRecOn with
  | ind n ih =>
    by_cases hn : n < 10
    · exact ⟨n.digitChar, [], Nat.toDigits_of_lt_base hn, Nat.digitChar_eq_zero.1⟩
    · obtain ⟨c, ds, hdigits, hzero⟩ := ih (n / 10) (by omega)
      refine ⟨c, ds ++ [(n % 10).digitChar], ?_, fun hc => ?_⟩
      · rw [Nat.toDigits_of_base_le (by decide) (Nat.not_lt.1 hn), hdigits]
        rfl
      · have := hzero hc
        omega

theorem reads_number {n : Nat} (hn : n ≤ maxUnsigned) :
    Reads Ends Number.read (Nat.toDigits 10 n) (.integer n) := by
  have hall : ∀ d ∈ Nat.toDigits 10 n, d.isDigit = true :=
    fun d hd => Nat.isDigit_of_mem_toDigits (by decide) (by decide) hd
  have hvalue : Nat.ofDigitChars 10 (Nat.toDigits 10 n) 0 = n :=
    Nat.ofDigitChars_toDigits (by decide) (by decide)
  obtain ⟨c, ds, hdigits, hzero⟩ := head_toDigits n
  rw [hdigits] at hall hvalue ⊢
  have hc : c.isDigit = true := hall c (List.mem_cons_self ..)
  have hminus : ¬ some c = some '-' := by
    rintro ⟨⟩
    contradiction
  unfold Number.read
  apply Reads.peek_bind
  rw [if_neg hminus]
  unfold readUnsigned
  apply Reads.peek_bind
  split
  next h => contradiction
  next h =>
    obtain rfl : c = '0' := Option.some.inj h
    obtain rfl : n = 0 := hzero rfl
    obtain rfl : ds = [] := (List.cons.inj hdigits).2.symm
    exact Reads.eat_bind (reads_isNext_digit.map (reads_readTail 0))
  next d _ h =>
    obtain rfl : c = d := Option.some.inj h
    rw [if_pos hc]
    apply Reads.remaining_bind
    intro m hm
    have hdigits := reads_readDigits hall 0 0 (hvalue.symm ▸ hn) (Nat.le_succ_of_le hm)
    rw [hvalue] at hdigits
    refine hdigits.map ?_
    exact reads_readTail n

end Numbers
end Storefront.Json
