import Mathlib.Algebra.Group.Nat.Defs
import Storefront.Time.Timestamp

/-! A point in time is read back from the text that shows it, whatever its year, its second and its
fraction. -/

namespace Storefront.Timestamp

theorem isBlank_of_isDigit {c : Char} (hc : c.isDigit = true) : isBlank c = false := by
  have hbounds : 48 ≤ c.toNat ∧ c.toNat ≤ 57 := Char.isDigit_iff_toNat.1 hc
  rw [Bool.eq_false_iff, ne_eq, isBlank, CharClass.contains_iff]
  rintro ⟨i, hi, hlow, hhigh⟩
  simp only [CharClass.blank, List.mem_cons, List.not_mem_nil, or_false] at hi
  obtain rfl | rfl | rfl | rfl | rfl | rfl | rfl | rfl | rfl | rfl := hi <;> omega

section Padded

variable {width n : Nat}

theorem isDigit_of_mem_padded : ∀ c ∈ padded width n, c.isDigit = true := by
  intro c hc
  rcases List.mem_append.1 hc with hzero | hdigit
  · obtain rfl := List.eq_of_mem_replicate hzero
    rfl
  · exact Nat.isDigit_of_mem_toDigits (by decide) (by decide) hdigit

theorem decimal_padded (width n : Nat) : decimal (padded width n) = n := by
  have hzeros (k : Nat) : Nat.ofDigitChars 10 (List.replicate k '0') 0 = 0 := by
    induction k with
    | zero => rfl
    | succ k ih => rwa [List.replicate_succ, Nat.ofDigitChars_cons]
  show Nat.ofDigitChars 10 (padded width n) 0 = n
  rw [padded, Nat.ofDigitChars_append, hzeros]
  exact Nat.ofDigitChars_toDigits (by decide) (by decide)

theorem padded_ne_nil : padded width n ≠ [] :=
  List.append_ne_nil_of_right_ne_nil _ Nat.toDigits_ne_nil

theorem length_padded (hwidth : 0 < width) (hn : n < 10 ^ width) : (padded width n).length = width := by
  have hdigits := (Nat.length_toDigits_le_iff (by decide) hwidth).2 hn
  rw [padded, List.length_append, List.length_replicate]
  omega

end Padded

variable {ds rest : List Char}

theorem readDigits_append {width : Nat} (hne : ds ≠ []) (hds : ∀ c ∈ ds, c.isDigit = true)
    (hwidth : ds.length ≤ width)
    (hstop : ds.length = width ∨ ∀ c, rest.head? = some c → c.isDigit = false) :
    readDigits width (ds ++ rest) = .ok (ds, rest) := by
  have htail : (rest.take (width - ds.length)).takeWhile Char.isDigit = [] := by
    rcases hstop with rfl | hstop
    · rw [Nat.sub_self]
      rfl
    · cases rest with
      | nil => rw [List.take_nil, List.takeWhile_nil]
      | cons c rest =>
        have hc : ¬ c.isDigit = true := by simp [hstop c rfl]
        cases width - ds.length with
        | zero => rfl
        | succ k => exact List.takeWhile_cons_of_neg hc
  have hdigits : ((ds ++ rest).take width).takeWhile Char.isDigit = ds := by
    rw [List.take_append, List.take_of_length_le hwidth, List.takeWhile_append_of_pos hds, htail,
      List.append_nil]
  unfold readDigits
  split
  next h => exact absurd (List.append_eq_nil_iff.1 h).1 hne
  next =>
    dsimp only
    rw [hdigits, if_neg hne, List.drop_left]

theorem readNumber_padded {width room n : Nat} (hroom : (padded width n).length ≤ room)
    (hstop : (padded width n).length = room ∨ ∀ c, rest.head? = some c → c.isDigit = false)
    (hmax : n ≤ maxNumber) : readNumber room (padded width n ++ rest) = .ok (n, rest) := by
  unfold readNumber
  rw [readDigits_append padded_ne_nil isDigit_of_mem_padded hroom hstop]
  show (if maxNumber < decimal (padded width n) then _ else _) = _
  rw [decimal_padded, if_neg (Nat.not_lt.2 hmax)]
  rfl

theorem padded_cons (width n : Nat) : ∃ c ds, padded width n = c :: ds ∧ c.isDigit = true := by
  obtain ⟨c, ds, h⟩ := List.exists_cons_of_ne_nil (padded_ne_nil : padded width n ≠ [])
  exact ⟨c, ds, h, isDigit_of_mem_padded c (h ▸ List.mem_cons_self ..)⟩

theorem trimStart_padded (width n : Nat) (rest : List Char) :
    trimStart (padded width n ++ rest) = padded width n ++ rest := by
  obtain ⟨c, ds, h, hc⟩ := padded_cons width n
  rw [h]
  exact trimStart_cons (isBlank_of_isDigit hc) (ds ++ rest)

theorem readPart_padded {low high n : Nat} (hlow : low ≤ n) (hhigh : n ≤ high) (hn : n < 100)
    (rest : List Char) : readPart low high (padded 2 n ++ rest) = .ok (n, rest) := by
  have hlength : (padded 2 n).length = 2 := length_padded (by decide) hn
  have hmax : n ≤ maxNumber := by
    unfold maxNumber
    omega
  unfold readPart
  rw [trimStart_padded, readNumber_padded (Nat.le_of_eq hlength) (.inl hlength) hmax]
  show (if n < low ∨ high < n then _ else _) = _
  rw [if_neg (by omega)]
  rfl

theorem readMark_cons {c : Char} (hc : isBlank c = false) (rest : List Char) :
    readMark c (c :: rest) = .ok rest := by
  unfold readMark
  rw [trimStart_cons hc]
  exact if_pos rfl

theorem not_isDigit_dash (rest : List Char) :
    ∀ c, ('-' :: rest).head? = some c → c.isDigit = false := by
  rintro c ⟨⟩
  rfl

theorem readYear_padded {n : Nat} (hn : n ≤ 9999) (rest : List Char) :
    readYear (padded 4 n ++ '-' :: rest) = .ok ((n : Int), '-' :: rest) := by
  have hlength : (padded 4 n).length = 4 := length_padded (by decide) (by omega)
  have hmax : n ≤ maxNumber := Nat.le_trans hn (by decide)
  have hread := readNumber_padded (Nat.le_of_eq hlength) (.inr (not_isDigit_dash rest)) hmax
  obtain ⟨c, ds, hcons, hc⟩ := padded_cons 4 n
  rw [readYear, trimStart_padded]
  rw [hcons] at hread ⊢
  dsimp only
  split
  next h => exact absurd (List.cons.inj h).1 (by rintro rfl; contradiction)
  next h => exact absurd (List.cons.inj h).1 (by rintro rfl; contradiction)
  next =>
    rw [hread]
    show (if (n : Int) < _ ∨ _ < (n : Int) then _ else _) = _
    rw [if_neg (by omega)]
    rfl

theorem readYear_signed {n : Nat} (hn : n ≤ 262143) (rest : List Char) :
    readYear ('-' :: padded 4 n ++ '-' :: rest) = .ok (-(n : Int), '-' :: rest) ∧
      readYear ('+' :: padded 4 n ++ '-' :: rest) = .ok ((n : Int), '-' :: rest) := by
  have hmax : n ≤ maxNumber := Nat.le_trans hn (by decide)
  have hread : readNumber (padded 4 n ++ '-' :: rest).length (padded 4 n ++ '-' :: rest) =
      .ok (n, '-' :: rest) := by
    refine readNumber_padded ?_ (.inr (not_isDigit_dash rest)) hmax
    rw [List.length_append]
    exact Nat.le_add_right _ _
  constructor
  · rw [readYear, List.cons_append, trimStart_cons (by decide)]
    simp only [hread]
    show (if -(n : Int) < _ ∨ _ < -(n : Int) then _ else _) = _
    rw [if_neg (by omega)]
    rfl
  · rw [readYear, List.cons_append, trimStart_cons (by decide)]
    simp only [hread]
    show (if (n : Int) < _ ∨ _ < (n : Int) then _ else _) = _
    rw [if_neg (by omega)]
    rfl

theorem readYear_yearChars {year : Int} (hyear : Calendar.firstYear ≤ year ∧ year ≤ Calendar.lastYear)
    (rest : List Char) : readYear (yearChars year ++ '-' :: rest) = .ok (year, '-' :: rest) := by
  unfold Calendar.firstYear Calendar.lastYear at hyear
  by_cases hplain : 0 ≤ year ∧ year ≤ 9999
  · have hvalue : (year.toNat : Int) = year := Int.toNat_of_nonneg hplain.1
    rw [yearChars, if_pos hplain, readYear_padded (by omega), hvalue]
  · obtain ⟨hminus, hplus⟩ := readYear_signed (show year.natAbs ≤ 262143 by omega) rest
    rw [yearChars, if_neg hplain]
    by_cases hneg : year < 0
    · have hvalue : -(year.natAbs : Int) = year := by omega
      rw [if_pos hneg, hminus, hvalue]
    · have hvalue : (year.natAbs : Int) = year := by omega
      rw [if_neg hneg, hplus, hvalue]

theorem readFraction_padded {width n : Nat} (hwidth : 0 < width ∧ width ≤ 9) (hn : n < 10 ^ width) :
    readFraction ('.' :: padded width n ++ ['Z']) = .ok (n * Nat.pow 10 (9 - width), ['Z']) := by
  have hlength : (padded width n).length = width := length_padded hwidth.1 hn
  have hread : readDigits 9 (padded width n ++ ['Z']) = .ok (padded width n, ['Z']) := by
    refine readDigits_append padded_ne_nil isDigit_of_mem_padded (hlength.symm ▸ hwidth.2) (.inr ?_)
    rintro c ⟨⟩
    rfl
  show readDigits 9 (padded width n ++ ['Z']) >>= _ = _
  rw [hread]
  show Except.ok (decimal (padded width n) * Nat.pow 10 (9 - (padded width n).length), ['Z']) = _
  rw [decimal_padded, hlength]

theorem readFraction_fractionChars {nanosecond : Nat} (h : nanosecond < 1000000000) :
    readFraction (fractionChars nanosecond ++ ['Z']) = .ok (nanosecond, ['Z']) := by
  unfold fractionChars
  split
  next hzero => rw [hzero]; rfl
  next =>
    split
    next hmilli =>
      rw [readFraction_padded ⟨by decide, by decide⟩ (by omega)]
      exact congrArg (fun n => Except.ok (n, ['Z']))
        (Nat.div_mul_cancel (Nat.dvd_of_mod_eq_zero hmilli))
    next =>
      split
      next hmicro =>
        rw [readFraction_padded ⟨by decide, by decide⟩ (by omega)]
        exact congrArg (fun n => Except.ok (n, ['Z']))
          (Nat.div_mul_cancel (Nat.dvd_of_mod_eq_zero hmicro))
      next =>
        rw [readFraction_padded ⟨by decide, by decide⟩ (by omega)]
        exact congrArg (fun n => Except.ok (n, ['Z'])) (Nat.mul_one nanosecond)

theorem ok_bind {ε α β : Type} (a : α) (f : α → Except ε β) : (Except.ok a >>= f) = f a := rfl

theorem ofLocal_self (t : Timestamp) :
    ofLocal t.date (60 * t.hour + t.minute) t.second t.nanosecond 0 = .ok t := by
  have hhour := t.hour_lt
  have hminute := t.minute_lt
  have hminutes : ((((60 * t.hour + t.minute : Nat) : Int) - 0) % 1440).toNat = 60 * t.hour + t.minute := by
    omega
  have hday : (if (((60 * t.hour + t.minute : Nat) : Int) - 0) < 0 then t.date.previous?
      else if 1440 ≤ (((60 * t.hour + t.minute : Nat) : Int) - 0) then t.date.next? else some t.date) =
      some t.date := by
    rw [if_neg (by omega), if_neg (by omega)]
  have hhours : (60 * t.hour + t.minute) / 60 = t.hour := by omega
  have hrest : (60 * t.hour + t.minute) % 60 = t.minute := by omega
  unfold ofLocal
  simp only [hday, hminutes, hhours, hrest, t.hour_lt, t.second_le, t.nanosecond_lt, dif_pos]
  rfl

theorem parse_display (t : Timestamp) : parse t.display = .ok t := by
  have hmonth := t.date.month_bounds
  have hday := t.date.day_bounds
  have hdays : Calendar.daysInMonth t.date.year t.date.month ≤ 31 := by
    unfold Calendar.daysInMonth
    split <;> split <;> omega
  have hhour := t.hour_lt
  have hminute := t.minute_lt
  have hsecond := t.second_le
  have hseparator (s : List Char) : readSeparator ('T' :: s) = .ok s := rfl
  have hoffset : readOffset ['Z'] = .ok (0, []) := rfl
  unfold parse
  rw [display, String.toList_ofList, displayChars]
  simp only [List.append_assoc, List.cons_append]
  -- The parts in the order in which they stand.
  rw [readYear_yearChars t.date.year_bounds, ok_bind, readMark_cons (by decide), ok_bind,
    readPart_padded hmonth.1 hmonth.2 (by omega), ok_bind, readMark_cons (by decide), ok_bind,
    readPart_padded hday.1 (by omega) (by omega), ok_bind, hseparator, ok_bind,
    readPart_padded (Nat.zero_le _) (by omega) (by omega), ok_bind, readMark_cons (by decide), ok_bind,
    readPart_padded (Nat.zero_le _) (by omega) (by omega), ok_bind, readMark_cons (by decide), ok_bind,
    readPart_padded (Nat.zero_le _) (by omega) (by omega), ok_bind,
    readFraction_fractionChars t.nanosecond_lt, ok_bind, hoffset, ok_bind]
  dsimp only
  rw [if_neg (by decide), Date.of?_eq]
  dsimp only
  rw [if_neg (by decide)]
  exact ofLocal_self t

example : display ⟨⟨-1, 12, 31, by decide, by decide, by decide⟩, 23, 59, 60, 5000000,
    by decide, by decide, by decide, by decide⟩ = "-0001-12-31T23:59:60.005Z" := by decide

end Storefront.Timestamp
