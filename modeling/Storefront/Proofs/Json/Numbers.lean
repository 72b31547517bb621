import Storefront.Proofs.Json.Meaning
import Storefront.Proofs.Json.Denoting

/-! A number is read, or refused, by its own text alone, and passed over whatever its size. -/

namespace Storefront.Json

open Reader Format

def NoDigit (rest : List Char) : Prop :=
  ∀ c, Begins c rest → c.isDigit = false

theorem Ends.noDigit {rest : List Char} (h : Ends rest) : NoDigit rest :=
  fun c hc => (h c hc).not_isDigit

section Parts

variable {ds fraction exponent rest : List Char} {c : Char}

theorem noDigit_cons (hc : c.isDigit = false) : NoDigit (c :: rest) := by
  intro d hd
  obtain rfl : c = d := Option.some.inj hd
  exact hc

theorem IsExponent.head (h : IsExponent exponent) (hne : exponent ≠ []) :
    ∃ mark t, exponent = mark :: t ∧ (mark = 'e' ∨ mark = 'E') := by
  obtain rfl | ⟨mark, sign, ds, rfl, hmark, -⟩ := h
  · contradiction
  · exact ⟨mark, sign ++ ds, rfl, by simpa [Number.isExponentMark] using hmark⟩

theorem IsExponent.noDigit (h : IsExponent exponent) (hrest : Ends rest) : NoDigit (exponent ++ rest) := by
  by_cases hne : exponent = []
  · rw [hne]
    exact hrest.noDigit
  · obtain ⟨mark, t, rfl, rfl | rfl⟩ := h.head hne <;> exact noDigit_cons rfl

theorem IsFraction.noDigit (h : IsFraction fraction) (hexponent : IsExponent exponent)
    (hrest : Ends rest) : NoDigit ((fraction ++ exponent) ++ rest) := by
  obtain rfl | ⟨ds, rfl, -⟩ := h
  · exact hexponent.noDigit hrest
  · exact noDigit_cons rfl

theorem AreDigits.head (h : AreDigits ds) : ∃ d back, ds = d :: back ∧ d.isDigit = true := by
  obtain ⟨d, back, rfl⟩ := List.exists_cons_of_ne_nil h.1
  exact ⟨d, back, rfl, h.2 d (List.mem_cons_self ..)⟩

theorem IsWhole.head {whole : List Char} (h : IsWhole whole) :
    ∃ d back, whole = d :: back ∧ d.isDigit = true := by
  obtain rfl | ⟨hds, -⟩ := h
  · exact ⟨'0', [], rfl, rfl⟩
  · exact hds.head

theorem takeWhile_digits (hds : ∀ d ∈ ds, d.isDigit = true) (hrest : NoDigit rest) :
    (ds ++ rest).takeWhile Char.isDigit = ds ∧ (ds ++ rest).dropWhile Char.isDigit = rest := by
  rw [List.takeWhile_append_of_pos hds, List.dropWhile_append_of_pos hds]
  cases rest with
  | nil => simp
  | cons c rest =>
    have hc : ¬c.isDigit = true := by simp [hrest c rfl]
    simp [hc]

theorem reads_skipWhile (hds : ∀ d ∈ ds, d.isDigit = true) :
    Reads NoDigit (skipWhile Char.isDigit) ds () := by
  intro rest p hrest
  obtain ⟨htake, hdrop⟩ := takeWhile_digits hds hrest
  exact ⟨ds.foldl Cursor.moved p, by rw [skipWhile, htake, hdrop]⟩

theorem reads_takeWhile (hds : ∀ d ∈ ds, d.isDigit = true) :
    Reads NoDigit (takeWhile Char.isDigit) ds ds := by
  intro rest p hrest
  obtain ⟨htake, hdrop⟩ := takeWhile_digits hds hrest
  exact ⟨ds.foldl Cursor.moved p, by rw [takeWhile, htake, hdrop]⟩

end Parts

section Digits

open Number

variable {α : Type} {a : α} {ds : List Char}

theorem Reads.peek_noDigit {f : Option Char → Reader α}
    (h : ∀ next, (∀ c, next = some c → c.isDigit = false) → Reads NoDigit (f next) [] a) :
    Reads NoDigit (Reader.peek >>= f) [] a :=
  fun rest p hrest => h rest.head? hrest rest p hrest

theorem reads_isNext_noDigit : Reads NoDigit (isNext Char.isDigit) [] false := by
  unfold isNext
  apply Reads.peek_noDigit
  intro next hnext
  have hdigit : next.any Char.isDigit = false := by
    cases next with
    | none => rfl
    | some c => exact hnext c rfl
  rw [hdigit]
  exact .pure false

theorem isNext_bind (p : Char → Bool) (f : Bool → Reader α) :
    isNext p >>= f = peek >>= fun next => f (next.any p) := rfl

theorem exponentDigits_cases (hds : ∀ d ∈ ds, d.isDigit = true) (n : Nat) :
    (∃ e, ∀ fuel, ds.length ≤ fuel → Reads NoDigit (exponentDigits fuel n) ds (some e)) ∨
      ∃ front back, ds = front ++ back ∧
        ∀ fuel, front.length ≤ fuel → Reads (fun _ => True) (exponentDigits fuel n) front none := by
  induction ds generalizing n with
  | nil =>
    refine .inl ⟨n, fun fuel _ => ?_⟩
    cases fuel with
    | zero => exact .pure _
    | succ fuel =>
      unfold exponentDigits
      apply Reads.peek_noDigit
      intro next hnext
      cases next with
      | none => exact .pure _
      | some c =>
        simp only [hnext c rfl, Bool.false_eq_true, if_false]
        exact .pure _
  | cons d ds ih =>
    rw [List.forall_mem_cons] at hds
    obtain ⟨hd, hds⟩ := hds
    by_cases hmax : maxExponent < 10 * n + digitOf d
    · refine .inr ⟨[d], ds, rfl, fun fuel hfuel => ?_⟩
      obtain ⟨fuel, rfl⟩ := Nat.exists_eq_add_of_le' hfuel
      unfold exponentDigits
      apply Reads.peek_bind
      simp only [hd, if_true, if_pos hmax]
      exact Reads.eat_bind (.pure none)
    · have hstep {P : List Char → Prop} {t : List Char} {o : Option Nat}
          (h : ∀ fuel, t.length ≤ fuel → Reads P (exponentDigits fuel (10 * n + digitOf d)) t o) :
          ∀ fuel, (d :: t).length ≤ fuel → Reads P (exponentDigits fuel n) (d :: t) o := by
        intro fuel hfuel
        obtain ⟨fuel, rfl⟩ : ∃ m, fuel = m + 1 := ⟨fuel - 1, by simp at hfuel; omega⟩
        unfold exponentDigits
        apply Reads.peek_bind
        simp only [hd, if_true, if_neg hmax]
        exact Reads.eat_bind (h fuel (Nat.le_of_succ_le_succ hfuel))
      obtain ⟨e, he⟩ | ⟨front, back, rfl, hnone⟩ := ih hds (10 * n + digitOf d)
      · exact .inl ⟨e, hstep he⟩
      · exact .inr ⟨d :: front, back, rfl, hstep hnone⟩

theorem readDigits_cases (hds : ∀ d ∈ ds, d.isDigit = true) (n count : Nat) :
    (∃ m, ∀ fuel, ds.length ≤ fuel →
      Reads NoDigit (readDigits fuel n count) ds (m, count + ds.length, false)) ∨
      ∃ front d back m k, ds = front ++ d :: back ∧
        ∀ fuel, front.length < fuel → Reads (Begins d) (readDigits fuel n count) front (m, k, true) := by
  induction ds generalizing n count with
  | nil =>
    refine .inl ⟨n, fun fuel _ => ?_⟩
    cases fuel with
    | zero => exact .pure _
    | succ fuel =>
      unfold readDigits
      apply Reads.peek_noDigit
      intro next hnext
      cases next with
      | none => exact .pure _
      | some c =>
        simp only [hnext c rfl, Bool.false_eq_true, if_false]
        exact .pure _
  | cons d ds ih =>
    rw [List.forall_mem_cons] at hds
    obtain ⟨hd, hds⟩ := hds
    by_cases hmax : maxUnsigned < 10 * n + digitOf d
    · refine .inr ⟨[], d, ds, n, count, rfl, fun fuel hfuel => ?_⟩
      obtain ⟨fuel, rfl⟩ := Nat.exists_eq_add_of_le' (Nat.succ_le_of_lt hfuel)
      unfold readDigits
      refine (Reads.peek d).map ?_
      simp only [hd, if_true, if_pos hmax]
      exact .pure _
    · have hstep {P : List Char → Prop} {t : List Char} {r : Nat × Nat × Bool} {fuel : Nat}
          (h : Reads P (readDigits fuel (10 * n + digitOf d) (count + 1)) t r) :
          Reads P (readDigits (fuel + 1) n count) (d :: t) r := by
        unfold readDigits
        apply Reads.peek_bind
        simp only [hd, if_true, if_neg hmax]
        exact Reads.eat_bind h
      obtain ⟨m, hm⟩ | ⟨front, d', back, m, k, rfl, hnone⟩ := ih hds (10 * n + digitOf d) (count + 1)
      · refine .inl ⟨m, fun fuel hfuel => ?_⟩
        obtain ⟨fuel, rfl⟩ : ∃ m, fuel = m + 1 := ⟨fuel - 1, by simp at hfuel; omega⟩
        have h := hm fuel (Nat.le_of_succ_le_succ hfuel)
        rw [Nat.add_right_comm] at h
        exact hstep h
      · refine .inr ⟨d :: front, d', back, m, k, rfl, fun fuel hfuel => ?_⟩
        obtain ⟨fuel, rfl⟩ : ∃ m, fuel = m + 1 := ⟨fuel - 1, by omega⟩
        exact hstep (hnone fuel (Nat.lt_of_succ_lt_succ hfuel))

def wholeExponent : Reader (Option Nat) := do
  exponentDigits ((← remaining) + 1) 0

theorem wholeExponent_cases (hds : ∀ d ∈ ds, d.isDigit = true) :
    (∃ e, Reads NoDigit wholeExponent ds (some e)) ∨
      ∃ front back, ds = front ++ back ∧ Reads (fun _ => True) wholeExponent front none := by
  obtain ⟨e, he⟩ | ⟨front, back, heq, hnone⟩ := exponentDigits_cases hds 0
  · exact .inl ⟨e, .remaining_bind fun m hm => he (m + 1) (Nat.le_succ_of_le hm)⟩
  · exact .inr ⟨front, back, heq, .remaining_bind fun m hm => hnone (m + 1) (Nat.le_succ_of_le hm)⟩

def wholeDigits (n : Nat) : Reader (Nat × Nat × Bool) := do
  readDigits ((← remaining) + 1) n 0

theorem wholeDigits_cases (hds : ∀ d ∈ ds, d.isDigit = true) (n : Nat) :
    (∃ m, Reads NoDigit (wholeDigits n) ds (m, ds.length, false)) ∨
      ∃ front d back m k, ds = front ++ d :: back ∧ Reads (Begins d) (wholeDigits n) front (m, k, true) := by
  obtain ⟨m, hm⟩ | ⟨front, d, back, m, k, heq, hnone⟩ := readDigits_cases hds n 0
  · refine .inl ⟨m, .remaining_bind fun l hl => ?_⟩
    have h := hm (l + 1) (Nat.le_succ_of_le hl)
    rwa [Nat.zero_add] at h
  · exact .inr ⟨front, d, back, m, k, heq,
      .remaining_bind fun l hl => hnone (l + 1) (Nat.lt_succ_of_le hl)⟩

end Digits

section Numbers

open Number

variable {α : Type} {r : Reader α} {t ds fraction exponent : List Char} {a : α} {n : Nat}

theorem Reads.decided {P : List Char → Prop} (h : Reads P r t a) : Decided P r t :=
  (Means.of_reads h).decided

theorem Refuses.decided (h : Refuses Ends r t) : Decided Ends r t :=
  .of_refuses h fun _ ha => ha.not_refuses ends_nil h

namespace Decided

variable {β : Type} {P Q : List Char → Prop} {u : List Char} {c : Char}

theorem eat_bind {f : Unit → Reader α} (h : Decided P (f ()) t) : Decided P (eat >>= f) (c :: t) :=
  (Means.eat_bind h).decided

theorem peek_bind {f : Option Char → Reader α} (h : Decided P (f (some c)) (c :: t)) :
    Decided P (peek >>= f) (c :: t) :=
  (Means.peek_bind h).decided

theorem reads_bind {r : Reader β} {b : β} {f : β → Reader α} (hr : Reads Q r t b)
    (hf : Decided P (f b) u) (hQ : ∀ rest, P rest → Q (u ++ rest)) : Decided P (r >>= f) (t ++ u) :=
  (Means.reads_bind hr hf hQ).decided

theorem reads_map {r : Reader β} {b : β} {f : β → Reader α} (hr : Reads P r t b)
    (hf : Decided P (f b) []) : Decided P (r >>= f) t :=
  (Means.reads_map hr hf).decided

theorem peek_stops {f : Option Char → Reader α}
    (h : ∀ next, (∀ c, next = some c → Stops c) → f next = r) (hr : Decided Ends r []) :
    Decided Ends (peek >>= f) [] :=
  (Means.peek_nil (N := fun next => ∀ c, next = some c → Stops c) (fun _ hrest => hrest) h hr).decided

end Decided

theorem decided_ofParts (negative : Bool) (n : Nat) (e : Int) : Decided Ends (ofParts negative n e) [] := by
  unfold ofParts
  split
  · exact (Reads.pure _).decided
  · exact (Refuses.failHere _).decided

def afterSign (negative : Bool) (n : Nat) (start : Int) (next : Option Char) : Reader Number := do
  match ← peek with
  | none => failHere .endOfValue
  | some c =>
    if c.isDigit then do
      match ← wholeExponent with
      | some e => ofParts negative n (if next = some '-' then start - e else start + e)
      | none =>
        if n ≠ 0 ∧ next ≠ some '-' then failHere .numberOutOfRange
        else do
          skipWhile Char.isDigit
          return .float (signed negative 0)
    else failAhead .invalidNumber

theorem readExponent_eq (negative : Bool) (n : Nat) (start : Int) :
    readExponent negative n start = (do
      eat
      let next ← peek
      if next = some '+' ∨ next = some '-' then eat
      afterSign negative n start next) := rfl

theorem decided_afterSign (negative : Bool) (start : Int) (next : Option Char) (hds : AreDigits ds) :
    Decided Ends (afterSign negative n start next) ds := by
  obtain ⟨d, back, rfl, hd⟩ := hds.head
  obtain ⟨-, hds⟩ := hds
  unfold afterSign
  apply Decided.peek_bind
  dsimp only
  rw [if_pos hd]
  obtain ⟨e, he⟩ | ⟨front, rest, heq, hnone⟩ := wholeExponent_cases hds
  · exact .reads_map (he.mono fun _ => Ends.noDigit) (decided_ofParts negative n _)
  · rw [heq] at hds ⊢
    refine .reads_bind hnone ?_ fun _ _ => trivial
    dsimp only
    split
    next => exact (Refuses.failHere _).decided
    next =>
      have hskip := reads_skipWhile fun d hd => hds d (List.mem_append_right front hd)
      exact .reads_map (hskip.mono fun _ => Ends.noDigit) (Reads.pure _).decided

theorem decided_readExponent (negative : Bool) (start : Int) (h : IsExponent exponent)
    (hne : exponent ≠ []) : Decided Ends (readExponent negative n start) exponent := by
  obtain rfl | ⟨mark, sign, ds, rfl, -, hsign, hds⟩ := h
  · contradiction
  rw [readExponent_eq]
  apply Decided.eat_bind
  obtain rfl | rfl | rfl := hsign
  · have hafter := decided_afterSign negative (n := n) start ds.head? hds
    obtain ⟨d, back, rfl, hd⟩ := hds.head
    apply Decided.peek_bind
    dsimp only
    rw [if_neg]
    · exact hafter
    · rintro (h | h)
      · exact ne_of_isDigit hd rfl (Option.some.inj h)
      · exact ne_of_isDigit hd rfl (Option.some.inj h)
  · apply Decided.peek_bind
    exact Decided.eat_bind (decided_afterSign negative start _ hds)
  · apply Decided.peek_bind
    exact Decided.eat_bind (decided_afterSign negative start _ hds)

theorem decided_finish (negative : Bool) (e : Int) (h : IsExponent exponent) :
    Decided Ends (finish negative n e) exponent := by
  unfold finish
  rw [isNext_bind]
  by_cases hne : exponent = []
  · rw [hne]
    refine .peek_stops (fun next hnext => ?_) (decided_ofParts negative n e)
    cases next with
    | none => rfl
    | some c => simp [(hnext c rfl).not_isExponentMark]
  · have hread := decided_readExponent negative (n := n) e h hne
    obtain ⟨mark, t, rfl, rfl | rfl⟩ := h.head hne <;> exact .peek_bind hread

theorem decided_readDecimal (negative : Bool) (start : Int) (hds : AreDigits ds)
    (h : IsExponent exponent) : Decided Ends (readDecimal negative n start) ('.' :: (ds ++ exponent)) := by
  unfold readDecimal
  apply Decided.eat_bind
  rw [← Reader.bind_assoc]
  obtain ⟨m, hm⟩ | ⟨front, d, back, m, k, rfl, hm⟩ := wholeDigits_cases hds.2 n
  · refine .reads_bind hm ?_ fun rest hrest => h.noDigit hrest
    have hlength : ds.length ≠ 0 := fun h => hds.1 (List.length_eq_zero_iff.1 h)
    dsimp only
    rw [if_neg Bool.false_ne_true, if_neg hlength]
    exact decided_finish negative _ h
  · have hskip := reads_skipWhile fun c hc => hds.2 c (List.mem_append_right front hc)
    rw [List.append_assoc]
    refine .reads_bind hm ?_ fun rest _ => begins_cons d _
    exact .reads_bind hskip (decided_finish negative _ h) fun rest hrest => h.noDigit hrest

theorem decided_readTail (negative : Bool) (hfraction : IsFraction fraction) (h : IsExponent exponent) :
    Decided Ends (readTail negative n) (fraction ++ exponent) := by
  unfold readTail
  obtain rfl | ⟨ds, rfl, hds⟩ := hfraction
  · rw [List.nil_append]
    by_cases hne : exponent = []
    · rw [hne]
      refine .peek_stops (fun next hnext => ?_) (Reads.pure (ofWhole negative n)).decided
      split
      next => exact absurd rfl (hnext '.' rfl).ne_point
      next c _ => simp [(hnext c rfl).not_isExponentMark]
      next => rfl
    · have hread := decided_readExponent negative (n := n) 0 h hne
      obtain ⟨mark, t, rfl, rfl | rfl⟩ := h.head hne <;> exact .peek_bind hread
  · apply Decided.peek_bind
    exact decided_readDecimal negative 0 hds h

theorem decided_readLong (negative : Bool) (hds : ∀ d ∈ ds, d.isDigit = true)
    (hfraction : IsFraction fraction) (h : IsExponent exponent) :
    Decided Ends (readLong negative n) (ds ++ (fraction ++ exponent)) := by
  unfold readLong
  refine .reads_bind (reads_takeWhile hds) ?_ fun rest hrest => hfraction.noDigit h hrest
  obtain rfl | ⟨places, rfl, hplaces⟩ := hfraction
  · have hfinish := decided_finish negative (n := n) ds.length h
    rw [List.nil_append]
    by_cases hne : exponent = []
    · rw [hne] at hfinish ⊢
      refine .peek_stops (fun next hnext => if_neg ?_) hfinish
      exact fun h => (hnext '.' h).ne_point rfl
    · obtain ⟨mark, t, rfl, rfl | rfl⟩ := h.head hne <;> exact .peek_bind hfinish
  · exact .peek_bind (decided_readDecimal negative ds.length hplaces h)

theorem decided_readDigits (negative : Bool) (hds : AreDigits ds) (hfraction : IsFraction fraction)
    (h : IsExponent exponent) :
    Decided Ends (wholeDigits 0 >>= fun x =>
      if x.2.2 then readLong negative x.1 else readTail negative x.1) (ds ++ (fraction ++ exponent)) := by
  obtain ⟨m, hm⟩ | ⟨front, d, back, m, k, rfl, hm⟩ := wholeDigits_cases hds.2 0
  · have htail := decided_readTail negative (n := m) hfraction h
    exact .reads_bind hm htail fun rest hrest => hfraction.noDigit h hrest
  · have hlong := decided_readLong negative (n := m)
      (fun c hc => hds.2 c (List.mem_append_right front hc)) hfraction h
    rw [List.append_assoc]
    exact .reads_bind hm hlong fun rest _ => begins_cons d _

theorem decided_readUnsigned {whole : List Char} (negative : Bool) (hwhole : IsWhole whole)
    (hfraction : IsFraction fraction) (h : IsExponent exponent) :
    Decided Ends (readUnsigned negative) (whole ++ (fraction ++ exponent)) := by
  unfold readUnsigned
  obtain rfl | ⟨hds, hzero⟩ := hwhole
  · apply Decided.peek_bind
    apply Decided.eat_bind
    have htail := decided_readTail negative (n := 0) hfraction h
    exact .reads_bind reads_isNext_noDigit htail fun rest hrest => hfraction.noDigit h hrest
  · have hdigits := decided_readDigits negative hds hfraction h
    obtain ⟨d, back, rfl, hd⟩ := hds.head
    apply Decided.peek_bind
    split
    next heq => contradiction
    next heq => exact absurd heq hzero
    next c _ heq =>
      obtain rfl : d = c := Option.some.inj heq
      rw [if_pos hd]
      exact hdigits

theorem decided_number (h : IsNumber t) : Decided Ends Number.read t := by
  obtain ⟨hsign, hwhole, hfraction, hexponent⟩ := h
  have hread (negative : Bool) := decided_readUnsigned negative hwhole hfraction hexponent
  obtain rfl | rfl := hsign
  · obtain ⟨d, back, rfl, hd⟩ := hwhole.head
    have hminus : ¬some d = some '-' := fun h => ne_of_isDigit hd rfl (Option.some.inj h)
    apply Decided.peek_bind
    rw [if_neg hminus]
    exact hread false
  · exact .peek_bind (.eat_bind (hread true))

end Numbers

section Skipping

open Number

variable {t ds whole fraction exponent : List Char}

def skipTail : Reader Unit := do
  if (← peek) = some '.' then skipDecimal
  else if ← isNext isExponentMark then skipExponent

def skipUnsigned : Reader Unit := do
  if (← peek) = some '0' then do
    eat
    if ← isNext Char.isDigit then failAhead .invalidNumber
  else if ← isNext Char.isDigit then skipWhile Char.isDigit
  else failAhead .invalidNumber
  skipTail

theorem skip_eq : Number.skip = (do
    if (← peek) = some '-' then eat
    skipUnsigned) := rfl

theorem Reads.isNext_bind {p : Char → Bool} {f : Bool → Reader Unit} {P : List Char → Prop} {c : Char}
    (h : Reads P (f (p c)) (c :: t) ()) : Reads P (isNext p >>= f) (c :: t) () := by
  rw [Json.isNext_bind]
  exact Reads.peek_bind h

theorem Reads.seq {α β : Type} {r : Reader α} {r' : Reader β} {P Q : List Char → Prop}
    {u : List Char} {a : α} {b : β} (hr : Reads Q r t a) (hr' : Reads P r' u b)
    (hQ : ∀ rest, P rest → Q (u ++ rest)) : Reads P (r >>= fun _ => r') (t ++ u) b :=
  hr.bind hr' hQ

theorem reads_skipExponent (h : IsExponent exponent) (hne : exponent ≠ []) :
    Reads Ends skipExponent exponent () := by
  obtain rfl | ⟨mark, sign, ds, rfl, -, hsign, hds⟩ := h
  · contradiction
  have hskip := (reads_skipWhile hds.2).mono fun _ => Ends.noDigit
  obtain ⟨d, back, rfl, hd⟩ := hds.head
  have hdigits : Reads Ends (do
      if ← isNext Char.isDigit then skipWhile Char.isDigit else failAhead .invalidNumber)
      (d :: back) () := by
    apply Reads.isNext_bind
    rw [if_pos hd]
    exact hskip
  unfold skipExponent
  apply Reads.eat_bind
  obtain rfl | rfl | rfl := hsign
  · have hsign : ¬(d = '+' || d = '-') = true := by simp [ne_of_isDigit hd]
    apply Reads.isNext_bind
    rw [if_neg hsign]
    exact hdigits
  · exact .isNext_bind (.eat_bind hdigits)
  · exact .isNext_bind (.eat_bind hdigits)

theorem reads_skipMark (h : IsExponent exponent) :
    Reads Ends (do if ← isNext isExponentMark then skipExponent) exponent () := by
  by_cases hne : exponent = []
  · rw [hne, isNext_bind]
    apply Reads.peek_stops
    intro next hnext
    cases next with
    | none => exact .pure ()
    | some c =>
      have hmark : ¬isExponentMark c = true := by simp [(hnext c rfl).not_isExponentMark]
      rw [Option.any_some, if_neg hmark]
      exact .pure ()
  · have hread := reads_skipExponent h hne
    obtain ⟨mark, t, rfl, rfl | rfl⟩ := h.head hne <;> exact .isNext_bind hread

theorem reads_skipDecimal (hds : AreDigits ds) (h : IsExponent exponent) :
    Reads Ends skipDecimal ('.' :: (ds ++ exponent)) () := by
  have htail := (reads_skipWhile hds.2).seq (reads_skipMark h) fun rest hrest => h.noDigit hrest
  obtain ⟨d, back, rfl, hd⟩ := hds.head
  unfold skipDecimal
  apply Reads.eat_bind
  apply Reads.isNext_bind
  rw [if_pos hd]
  exact htail

theorem reads_skipTail (hfraction : IsFraction fraction) (h : IsExponent exponent) :
    Reads Ends skipTail (fraction ++ exponent) () := by
  unfold skipTail
  obtain rfl | ⟨ds, rfl, hds⟩ := hfraction
  · have hmark := reads_skipMark h
    rw [List.nil_append]
    by_cases hne : exponent = []
    · rw [hne] at hmark ⊢
      apply Reads.peek_stops
      intro next hnext
      rw [if_neg fun h => (hnext '.' h).ne_point rfl]
      exact hmark
    · obtain ⟨mark, t, rfl, rfl | rfl⟩ := h.head hne <;> exact .peek_bind hmark
  · exact .peek_bind (reads_skipDecimal hds h)

theorem reads_skipUnsigned (hwhole : IsWhole whole) (hfraction : IsFraction fraction)
    (h : IsExponent exponent) : Reads Ends skipUnsigned (whole ++ (fraction ++ exponent)) () := by
  have htail := reads_skipTail hfraction h
  unfold skipUnsigned
  obtain rfl | ⟨hds, hzero⟩ := hwhole
  · exact .peek_bind (.eat_bind (reads_isNext_noDigit.bind htail fun rest hrest =>
      hfraction.noDigit h hrest))
  · have hdigits := (reads_skipWhile hds.2).seq htail fun rest hrest => hfraction.noDigit h hrest
    obtain ⟨d, back, rfl, hd⟩ := hds.head
    have hzero : ¬some d = some '0' := hzero
    apply Reads.peek_bind
    dsimp only
    rw [if_neg hzero]
    apply Reads.isNext_bind
    rw [if_pos hd]
    exact hdigits

theorem reads_skip (h : IsNumber t) : Reads Ends Number.skip t () := by
  obtain ⟨hsign, hwhole, hfraction, hexponent⟩ := h
  have hskip := reads_skipUnsigned hwhole hfraction hexponent
  rw [skip_eq]
  obtain rfl | rfl := hsign
  · obtain ⟨d, back, rfl, hd⟩ := hwhole.head
    have hminus : ¬some d = some '-' := fun h => ne_of_isDigit hd rfl (Option.some.inj h)
    apply Reads.peek_bind
    dsimp only
    rw [if_neg hminus]
    exact hskip
  · exact .peek_bind (.eat_bind hskip)

end Skipping

end Storefront.Json
