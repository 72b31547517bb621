import Storefront.Proofs.Text.Blank
import Storefront.Proofs.Text.Color
import Storefront.Proofs.Text.LetterCase
import Storefront.Text.Slice

/-! Which texts are colors. A pair of characters is two hexadecimal digits or a plus sign and one, so
that a color is shown as it was written only if there is no plus sign in it. -/

namespace Storefront.Color

def IsDigit (c : Char) (n : Nat) : Prop :=
  n < 16 ∧ c.toLower = n.digitChar

instance (c : Char) (n : Nat) : Decidable (IsDigit c n) :=
  inferInstanceAs (Decidable (_ ∧ _))

/-- The two characters spell `n`: two digits, or a plus sign and one. -/
inductive IsPair : Char → Char → UInt8 → Prop
  | digits {a b : Char} {high low : Nat} {n : UInt8} (ha : IsDigit a high) (hb : IsDigit b low)
    (hn : n.toNat = 16 * high + low) : IsPair a b n
  | signed {b : Char} {n : UInt8} (hb : IsDigit b n.toNat) : IsPair '+' b n

/-- The text consists of three pairs, which spell the channels of the color in their order. -/
inductive Spells : List Char → Color → Prop
  | mk {a b c d e f : Char} {red green blue : UInt8} (hred : IsPair a b red)
    (hgreen : IsPair c d green) (hblue : IsPair e f blue) :
    Spells [a, b, c, d, e, f] ⟨red, green, blue⟩

/-- What is left of a text without the blanks around it and without one `#` after these. -/
def IsBody (s : String) (t : List Char) : Prop :=
  Trimmed s.toList ('#' :: t) ∨ Trimmed s.toList t ∧ t.head? ≠ some '#'

section Digits

variable {a b c : Char} {m n : Nat} {v : UInt8}

theorem digitValue?_table : ∀ k < 0x80, ∀ n < 16,
    (digitValue? (Char.ofNat k) = some (UInt8.ofNat n) ↔ (Char.ofNat k).toLower = n.digitChar) := by
  decide +kernel

theorem digitValue?_lt : ∀ k < 0x80, ∀ v ∈ digitValue? (Char.ofNat k),
    v.toNat < 16 ∧ isBlank (Char.ofNat k) = false := by
  decide +kernel

theorem toNat_lt_of_digitValue? (h : digitValue? c = some v) : c.toNat < 0x80 := by
  have hle {d : Char} (hd : c ≤ d) : c.toNat ≤ d.toNat := hd
  unfold digitValue? at h
  split at h
  next hc => exact Nat.lt_of_le_of_lt (hle hc.2) (by decide)
  next =>
    split at h
    next hc => exact Nat.lt_of_le_of_lt (hle hc.2) (by decide)
    next =>
      split at h
      next hc => exact Nat.lt_of_le_of_lt (hle hc.2) (by decide)
      next => contradiction

theorem IsDigit.toNat_lt (h : IsDigit c n) : c.toNat < 0x80 := by
  have hdigit : ∀ n < 16, n.digitChar.toNat < 0x80 := by decide
  rcases toLower_cases c with heq | ⟨-, hc, -⟩
  · rw [← heq, h.2]
    exact hdigit n h.1
  · omega

theorem digitValue?_eq_some_iff : digitValue? c = some v ↔ IsDigit c v.toNat := by
  have htable (hc : c.toNat < 0x80) (hv : v.toNat < 16) :
      digitValue? c = some v ↔ c.toLower = v.toNat.digitChar := by
    have := digitValue?_table c.toNat hc v.toNat hv
    rwa [Char.ofNat_toNat, UInt8.ofNat_toNat] at this
  constructor
  · intro h
    have hc := toNat_lt_of_digitValue? h
    have hv := (digitValue?_lt c.toNat hc v (by rwa [Char.ofNat_toNat])).1
    exact ⟨hv, (htable hc hv).1 h⟩
  · intro h
    exact (htable h.toNat_lt h.1).2 h.2

theorem IsDigit.exists_value (h : IsDigit c n) :
    ∃ v : UInt8, v.toNat = n ∧ digitValue? c = some v := by
  have hn : (UInt8.ofNat n).toNat = n := UInt8.toNat_ofNat_of_lt' (Nat.lt_trans h.1 (by decide))
  exact ⟨_, hn, digitValue?_eq_some_iff.2 (by rwa [hn])⟩

theorem IsDigit.ne {d : Char} (h : IsDigit c n) (hd : ∀ n < 16, n.digitChar ≠ d.toLower) : c ≠ d := by
  rintro rfl
  exact hd n h.1 h.2.symm

theorem IsDigit.isBlank_eq_false (h : IsDigit c n) : isBlank c = false := by
  obtain ⟨v, -, hv⟩ := h.exists_value
  have hblank := (digitValue?_lt c.toNat h.toNat_lt v (by rwa [Char.ofNat_toNat])).2
  rwa [Char.ofNat_toNat] at hblank

theorem isDigit_toLower_iff : IsDigit c.toLower n ↔ IsDigit c n := by
  have htwice : c.toLower.toLower = c.toLower := by
    rcases toLower_cases c with h | ⟨h1, -, h3⟩
    · rw [h, h]
    · rcases toLower_cases c.toLower with h | ⟨-, h2, -⟩
      · exact h
      · omega
  rw [IsDigit, IsDigit, htwice]

theorem toNat_two_digits {high low : UInt8} (hhigh : high.toNat < 16) (hlow : low.toNat < 16) :
    (16 * high + low).toNat = 16 * high.toNat + low.toNat := by
  have h16 : (16 : UInt8).toNat = 16 := rfl
  rw [UInt8.toNat_add, UInt8.toNat_mul, h16]
  omega

theorem channel?_eq_some_iff : channel? a b = some v ↔ IsPair a b v := by
  unfold channel?
  by_cases ha : a = '+'
  · subst ha
    rw [if_pos rfl, digitValue?_eq_some_iff]
    constructor
    · exact .signed
    · rintro (⟨hplus, -, -⟩ | hb)
      · exact absurd rfl (hplus.ne (by decide))
      · exact hb
  · rw [if_neg ha]
    constructor
    · intro h
      obtain ⟨high, hhigh, h⟩ := Option.bind_eq_some_iff.1 h
      obtain ⟨low, hlow, h⟩ := Option.bind_eq_some_iff.1 h
      obtain rfl := Option.some.inj h
      rw [digitValue?_eq_some_iff] at hhigh hlow
      exact .digits hhigh hlow (toNat_two_digits hhigh.1 hlow.1)
    · rintro (⟨hhigh, hlow, hv⟩ | -)
      · obtain ⟨high, rfl, hhigh'⟩ := hhigh.exists_value
        obtain ⟨low, rfl, hlow'⟩ := hlow.exists_value
        have hsum := toNat_two_digits hhigh.1 hlow.1
        rw [hhigh', hlow', UInt8.toNat_inj.1 (hv.trans hsum.symm)]
        rfl
      · contradiction

theorem channels?_eq_some_iff {t : List Char} {color : Color} :
    channels? t = some color ↔ Spells t color := by
  constructor
  · intro h
    unfold channels? at h
    split at h
    next a b c d e f =>
      obtain ⟨red, hred, h⟩ := Option.bind_eq_some_iff.1 h
      obtain ⟨green, hgreen, h⟩ := Option.bind_eq_some_iff.1 h
      obtain ⟨blue, hblue, h⟩ := Option.bind_eq_some_iff.1 h
      obtain rfl := Option.some.inj h
      rw [channel?_eq_some_iff] at hred hgreen hblue
      exact .mk hred hgreen hblue
    next => contradiction
  · rintro ⟨hred, hgreen, hblue⟩
    rw [← channel?_eq_some_iff] at hred hgreen hblue
    rw [channels?, hred, hgreen, hblue]
    rfl

theorem IsPair.first (h : IsPair a b v) : a = '+' ∨ ∃ n, IsDigit a n := by
  cases h with
  | digits ha hb hn => exact .inr ⟨_, ha⟩
  | signed hb => exact .inl rfl

theorem IsPair.second (h : IsPair a b v) : ∃ n, IsDigit b n := by
  cases h with
  | digits ha hb hn => exact ⟨_, hb⟩
  | signed hb => exact ⟨_, hb⟩

theorem IsPair.toNat_lt (h : IsPair a b v) : a.toNat < 0x80 ∧ b.toNat < 0x80 := by
  obtain ⟨n, hb⟩ := h.second
  refine ⟨?_, hb.toNat_lt⟩
  obtain rfl | ⟨m, ha⟩ := h.first
  · decide
  · exact ha.toNat_lt

theorem IsPair.of_toLower (h : IsPair a.toLower b.toLower v) : IsPair a b v := by
  generalize ha : a.toLower = a' at h
  generalize hb : b.toLower = b' at h
  cases h with
  | digits hhigh hlow hv =>
    rw [← ha, isDigit_toLower_iff] at hhigh
    rw [← hb, isDigit_toLower_iff] at hlow
    exact .digits hhigh hlow hv
  | signed hlow =>
    rw [← hb, isDigit_toLower_iff] at hlow
    have hplus : a = '+' := by
      rcases toLower_cases a with h | ⟨h1, h2, h3⟩
      · rw [← h, ha]
      · rw [ha] at h3
        have h43 : ('+' : Char).toNat = 43 := rfl
        omega
    rw [hplus]
    exact .signed hlow

def shown (c : Char) : Char :=
  if c = '+' then '0' else c.toLower

theorem hexDigit_digitChar : ∀ n < 16, hexDigit (UInt8.ofNat n) = n.digitChar := by
  decide

theorem IsDigit.hexDigit_eq (h : IsDigit c v.toNat) : hexDigit v = shown c := by
  have hshown := hexDigit_digitChar v.toNat h.1
  rw [UInt8.ofNat_toNat] at hshown
  rw [hshown, shown, if_neg (h.ne (by decide)), h.2]

theorem IsPair.hexPair_eq (h : IsPair a b v) : hexPair v = [shown a, shown b] := by
  have h16 : (16 : UInt8).toNat = 16 := rfl
  rw [hexPair]
  cases h with
  | @digits _ _ high low _ ha hb hv =>
    have hhigh : (v / 16).toNat = high := by
      rw [UInt8.toNat_div, h16, hv]
      have := hb.1
      omega
    have hlow : (v % 16).toNat = low := by
      rw [UInt8.toNat_mod, h16, hv]
      have := hb.1
      omega
    rw [← hhigh] at ha
    rw [← hlow] at hb
    rw [ha.hexDigit_eq, hb.hexDigit_eq]
  | signed hb =>
    have hhigh : v / 16 = 0 := by
      apply UInt8.toNat_inj.1
      rw [UInt8.toNat_div, h16]
      exact Nat.div_eq_of_lt hb.1
    have hlow : v % 16 = v := by
      apply UInt8.toNat_inj.1
      rw [UInt8.toNat_mod, h16]
      exact Nat.mod_eq_of_lt hb.1
    rw [hhigh, hlow, hb.hexDigit_eq]
    rfl

end Digits

section Texts

variable {s : String} {t before after : List Char} {color : Color}

theorem Spells.toNat_lt (h : Spells t color) : t.length = 6 ∧ ∀ c ∈ t, c.toNat < 0x80 := by
  obtain ⟨hred, hgreen, hblue⟩ := h
  refine ⟨rfl, ?_⟩
  simp only [List.forall_mem_cons, List.not_mem_nil, false_imp_iff, implies_true, and_true]
  exact ⟨hred.toNat_lt.1, hred.toNat_lt.2, hgreen.toNat_lt.1, hgreen.toNat_lt.2, hblue.toNat_lt.1,
    hblue.toNat_lt.2⟩

theorem Spells.of_toLower (h : Spells (t.map Char.toLower) color) : Spells t color := by
  generalize ht : t.map Char.toLower = t' at h
  obtain ⟨hred, hgreen, hblue⟩ := h
  simp only [List.map_eq_cons_iff, List.map_eq_nil_iff] at ht
  obtain ⟨a, _, rfl, rfl, b, _, rfl, rfl, c, _, rfl, rfl, d, _, rfl, rfl, e, _, rfl, rfl, f, _, rfl,
    rfl, rfl⟩ := ht
  exact .mk hred.of_toLower hgreen.of_toLower hblue.of_toLower

theorem Spells.head (h : Spells t color) : t.head? ≠ some '#' ∧ ∀ c ∈ t.head?, isBlank c = false := by
  obtain ⟨hred, -, -⟩ := h
  simp only [List.head?_cons, Option.mem_def, Option.some.injEq, ne_eq, forall_eq']
  obtain rfl | ⟨n, ha⟩ := hred.first
  · decide
  · exact ⟨ha.ne (by decide), ha.isBlank_eq_false⟩

theorem Spells.last (h : Spells t color) : ∀ c ∈ t.getLast?, isBlank c = false := by
  obtain ⟨-, -, hblue⟩ := h
  obtain ⟨n, hf⟩ := hblue.second
  simpa using hf.isBlank_eq_false

theorem isBody_iff : IsBody s t ↔ t = dropHash (trim s.toList) := by
  unfold IsBody dropHash
  simp only [trimmed_iff]
  generalize trim s.toList = u
  split
  next u =>
    constructor
    · rintro (h | ⟨rfl, h⟩)
      · exact (List.cons.inj h).2
      · exact absurd rfl h
    · rintro rfl
      exact .inl rfl
  next hne =>
    constructor
    · rintro (rfl | ⟨rfl, -⟩)
      · exact absurd rfl (hne t)
      · rfl
    · rintro rfl
      refine .inr ⟨rfl, fun h => ?_⟩
      obtain ⟨u, rfl⟩ := List.head?_eq_some_iff.1 h
      exact hne u rfl

theorem IsBody.parse_eq_ok_iff (h : IsBody s t) : parse s = .ok color ↔ Spells t color := by
  rw [← channels?_eq_some_iff, parse, ← isBody_iff.1 h]
  cases channels? t <;> simp

theorem IsBody.parse_eq_error (h : IsBody s t) (hnone : ∀ color, ¬Spells t color) :
    parse s = .error ⟨s⟩ := by
  have hchannels : channels? t = none :=
    Option.eq_none_iff_forall_ne_some.2 fun color hc => hnone color (channels?_eq_some_iff.1 hc)
  rw [parse, ← isBody_iff.1 h, hchannels]

theorem Spells.isBody (h : Spells t color) (hbefore : ∀ c ∈ before, isBlank c = true)
    (hafter : ∀ c ∈ after, isBlank c = true) :
    IsBody (String.ofList (before ++ (t ++ after))) t ∧
      IsBody (String.ofList (before ++ ('#' :: t ++ after))) t := by
  constructor
  · refine .inr ⟨⟨⟨before, after, String.toList_ofList, hbefore, hafter⟩, h.head.2, h.last⟩, h.head.1⟩
  · refine .inl ⟨⟨before, after, String.toList_ofList, hbefore, hafter⟩, ?_, ?_⟩
    · rintro c hc
      obtain rfl := Option.some.inj hc
      decide
    · have hlast := h.last
      obtain ⟨hred, hgreen, hblue⟩ := h
      exact hlast

theorem Spells.displayChars_eq (h : Spells t color) : color.displayChars = '#' :: t.map shown := by
  obtain ⟨hred, hgreen, hblue⟩ := h
  simp only [displayChars, hred.hexPair_eq, hgreen.hexPair_eq, hblue.hexPair_eq]
  rfl

end Texts

section Bytes

def addDigit? (n : UInt8) (c : Char) : Option UInt8 := do
  let d ← digitValue? c
  if 16 * n.toNat + d.toNat < 256 then return 16 * n + d else none

def number? : List Char → Option UInt8
  | [] => none
  | ['+'] => none
  | '+' :: digits => digits.foldlM addDigit? 0
  | digits => digits.foldlM addDigit? 0

/-- The channel whose digits stand at the places `2 * i` and `2 * i + 1` of the bytes of `t`. There is
no result if one of the places is inside of a character or past the end. -/
def channelAt (s : String) (t : List Char) (i : Nat) : ExceptT ParseError Option UInt8 := do
  match number? (← (Slice.between? (2 * i) (2 * i + 2) t : Option (List Char))) with
  | some n => return n
  | none => throw ⟨s⟩

/-- Reads a color from the bytes of a text, as `parse` does from its characters. -/
def parseBytes (s : String) : ExceptT ParseError Option Color :=
  let t := dropHash (trim s.toList)
  if Slice.size t = 6 ∧ t.all (·.toNat < 0x80) then
    return ⟨← channelAt s t 0, ← channelAt s t 1, ← channelAt s t 2⟩
  else throw ⟨s⟩

variable {a b : Char} {s : String} {t : List Char} {n : UInt8}

theorem addDigit?_eq (hn : n.toNat < 16) (c : Char) :
    addDigit? n c = (digitValue? c).map (16 * n + ·) := by
  unfold addDigit?
  rcases hd : digitValue? c with - | d
  · rfl
  · have hd := (digitValue?_eq_some_iff.1 hd).1
    have hlt : 16 * n.toNat + d.toNat < 256 := by omega
    simp [hlt]

theorem number?_pair (a b : Char) : number? [a, b] = channel? a b := by
  have hzero (c : Char) : addDigit? 0 c = digitValue? c := by
    rw [addDigit?_eq (by decide)]
    simp
  by_cases ha : a = '+'
  · subst ha
    rw [channel?, if_pos rfl]
    simp [number?, hzero]
  · have hdigits : number? [a, b] = [a, b].foldlM addDigit? 0 := by
      simp [number?, ha]
    rw [hdigits, channel?, if_neg ha, List.foldlM_cons, hzero]
    rcases hhigh : digitValue? a with - | high
    · rfl
    · have h16 := (digitValue?_eq_some_iff.1 hhigh).1
      show [b].foldlM addDigit? high = _
      rw [List.foldlM_cons, addDigit?_eq h16]
      cases digitValue? b <;> rfl

theorem channelAt_eq (h : ∀ c ∈ t, c.toNat < 0x80) {i : Nat} (hi : 2 * i + 2 ≤ t.length) :
    channelAt s t i = ExceptT.mk (some (match number? ((t.drop (2 * i)).take 2) with
      | some n => .ok n
      | none => .error ⟨s⟩)) := by
  have hslice := Slice.between?_of_ascii h (Nat.le_add_right (2 * i) 2) hi
  rw [Nat.add_sub_cancel_left] at hslice
  unfold channelAt
  rw [hslice]
  show (match number? ((t.drop (2 * i)).take 2) with
    | some n => pure n
    | none => throw ⟨s⟩ : ExceptT ParseError Option UInt8) = _
  cases number? ((t.drop (2 * i)).take 2) <;> rfl

theorem exists_of_length_six (h : t.length = 6) : ∃ a b c d e f, t = [a, b, c, d, e, f] := by
  rcases t with - | ⟨a, - | ⟨b, - | ⟨c, - | ⟨d, - | ⟨e, - | ⟨f, - | ⟨g, t⟩⟩⟩⟩⟩⟩⟩ <;> simp at h
  exact ⟨a, b, c, d, e, f, rfl⟩

/-- Places in the bytes of a text are only looked at where there are characters. -/
theorem run_parseBytes (s : String) : (parseBytes s).run = some (parse s) := by
  unfold parseBytes parse
  generalize dropHash (trim s.toList) = t
  have hall : t.all (·.toNat < 0x80) ↔ ∀ c ∈ t, c.toNat < 0x80 := by
    simp only [List.all_eq_true, decide_eq_true_eq]
  by_cases h : Slice.size t = 6 ∧ t.all (·.toNat < 0x80)
  · have hascii := hall.1 h.2
    have hlength := Slice.size_of_ascii hascii
    rw [h.1] at hlength
    simp only [if_pos h]
    rw [channelAt_eq hascii (by omega), channelAt_eq hascii (by omega),
      channelAt_eq hascii (by omega)]
    obtain ⟨a, b, c, d, e, f, rfl⟩ := exists_of_length_six hlength.symm
    simp only [Nat.mul_zero, Nat.reduceMul, List.drop_zero, List.drop_succ_cons, List.take_succ_cons,
      List.take_zero, number?_pair, channels?]
    rcases channel? a b with - | red
    · rfl
    rcases channel? c d with - | green
    · rfl
    rcases channel? e f with - | blue <;> rfl
  · have hnone : channels? t = none := by
      refine Option.eq_none_iff_forall_ne_some.2 fun color hcolor => h ?_
      obtain ⟨hlength, hascii⟩ := (channels?_eq_some_iff.1 hcolor).toNat_lt
      exact ⟨(Slice.size_of_ascii hascii).trans hlength, hall.2 hascii⟩
    rw [if_neg h, hnone]
    rfl

end Bytes

/-- A text is read as the color that it spells without the blanks around it and without one `#`; a
text that spells none is handed back in the error. Its bytes are only cut between characters. What is
spelled in letters of any case is read among any blanks, with or without `#`. -/
theorem parse_language :
    (∀ s, ∃ t, (∀ u, IsBody s u ↔ u = t) ∧
      (∀ color, parse s = .ok color ↔ Spells t color) ∧
      ((∀ color, ¬Spells t color) → parse s = .error ⟨s⟩) ∧
      (parseBytes s).run = some (parse s)) ∧
    (∀ t color, Spells t color → Slice.size t = 6 ∧ ∀ c ∈ t, c.toNat < 0x80) ∧
    ∀ (color : Color) (before text after : List Char), (∀ c ∈ before, isBlank c = true) →
      (∀ c ∈ after, isBlank c = true) → '#' :: text.map Char.toLower = color.display.toList →
        parse (String.ofList (before ++ (text ++ after))) = .ok color ∧
          parse (String.ofList (before ++ ('#' :: text ++ after))) = .ok color := by
  refine ⟨fun s => ⟨_, fun u => isBody_iff, ?_⟩, fun t color h => ?_, ?_⟩
  · have hbody : IsBody s (dropHash (trim s.toList)) := isBody_iff.2 rfl
    exact ⟨fun color => hbody.parse_eq_ok_iff, hbody.parse_eq_error, run_parseBytes s⟩
  · exact ⟨(Slice.size_of_ascii h.toNat_lt.2).trans h.toNat_lt.1, h.toNat_lt.2⟩
  · intro color before text after hbefore hafter htext
    rw [display, String.toList_ofList] at htext
    have hspells : Spells text color := by
      apply Spells.of_toLower
      rw [(List.cons.inj htext).2]
      exact channels?_eq_some_iff.1 (channels?_hexPairs color)
    obtain ⟨hbare, hhash⟩ := hspells.isBody hbefore hafter
    exact ⟨hbare.parse_eq_ok_iff.2 hspells, hhash.parse_eq_ok_iff.2 hspells⟩

/-- Between blanks of two kinds, a color in letters of both cases. -/
theorem parse_language_violet : parse "\u3000 #8B5cF6\n" = .ok ⟨0x8B, 0x5C, 0xF6⟩ ∧
    parse "\u3000 8B5cF6\n" = .ok ⟨0x8B, 0x5C, 0xF6⟩ := by
  have hbefore : ['\u3000', ' '].all isBlank = true := by decide +kernel
  have hafter : ['\n'].all isBlank = true := by decide +kernel
  have hpadded := parse_language.2.2 ⟨0x8B, 0x5C, 0xF6⟩ ['\u3000', ' '] "8B5cF6".toList ['\n']
    (List.all_eq_true.1 hbefore) (List.all_eq_true.1 hafter) (by decide +kernel)
  exact ⟨hpadded.2, hpadded.1⟩

/-- A color is shown as it was written, in small letters, but for the plus signs, which are shown as
zeros. -/
theorem display_parsed {s : String} {t : List Char} {color : Color} (ht : IsBody s t)
    (h : parse s = .ok color) :
    color.display = String.ofList ('#' :: t.map fun c => if c = '+' then '0' else c.toLower) ∧
      (color.display = String.ofList ('#' :: t.map Char.toLower) ↔ '+' ∉ t) := by
  have hchars := (ht.parse_eq_ok_iff.1 h).displayChars_eq
  refine ⟨by rw [display, hchars]; rfl, ?_⟩
  rw [display, hchars, String.ofList_inj, List.cons_inj_right, List.map_inj_left]
  constructor
  · intro hshown hplus
    have := hshown '+' hplus
    contradiction
  · intro hplus c hc
    refine if_neg ?_
    rintro rfl
    exact hplus hc

theorem display_parsed_mixed : IsBody " #aB+1fF" "aB+1fF".toList ∧
    parse " #aB+1fF" = .ok ⟨0xAB, 1, 0xFF⟩ ∧
      display ⟨0xAB, 1, 0xFF⟩ = String.ofList ('#' :: "ab01ff".toList) := by
  have hbody : IsBody " #aB+1fF" "aB+1fF".toList := isBody_iff.2 (by decide +kernel)
  have hparse : parse " #aB+1fF" = .ok ⟨0xAB, 1, 0xFF⟩ := by decide +kernel
  exact ⟨hbody, hparse, (display_parsed hbody hparse).1⟩

/-- A plus sign is lost: three signed digits are read as a color that is shown in six digits. -/
theorem display_signed_ne :
    IsBody "+1+2+3" "+1+2+3".toList ∧ parse "+1+2+3" = .ok ⟨1, 2, 3⟩ ∧
      display ⟨1, 2, 3⟩ = "#010203" ∧
      ¬∀ s t color, IsBody s t → parse s = .ok color →
        color.display = String.ofList ('#' :: t.map Char.toLower) := by
  have hbody : IsBody "+1+2+3" "+1+2+3".toList := isBody_iff.2 (by decide +kernel)
  have hparse : parse "+1+2+3" = .ok ⟨1, 2, 3⟩ := by decide +kernel
  refine ⟨hbody, hparse, by decide +kernel, fun h => ?_⟩
  have hsame := h _ _ _ hbody hparse
  revert hsame
  decide +kernel

end Storefront.Color
