import Storefront.Proofs.Json.Meaning
import Storefront.Proofs.Json.Scalars

/-! What stands between the quotes of a string is read as the characters that it spells, and passed
over even when it spells none. -/

namespace Storefront.Json

open Reader Format

section Halves

variable {P : List Char → Prop} {t : List Char} {c x y z w : Char} {n m : Nat}

theorem means_half (c x : Char) : Means P (half x) [c] fun _ => c = x := by
  unfold half
  apply Means.peek_bind
  dsimp only
  split
  next h => exact (Means.of_reads (.eat c)).congr fun _ => by simp [h]
  next h => exact Means.of_refuses (.failAhead _) fun _ => h

def secondHalf (n : Nat) : Reader Char := do
  half '\\'
  half 'u'
  let m ← hexEscape
  if isTrailing m then return joined n m
  else failHere .loneSurrogate

theorem unicodeEscape_eq : unicodeEscape = do
    let n ← hexEscape
    if isTrailing n then failHere .loneSurrogate
    else if isLeading n then secondHalf n
    else return Char.ofNat n := rfl

theorem means_secondHalf (hm : fourHex? x y z w = some m) :
    Means P (secondHalf n) ['\\', 'u', x, y, z, w] fun c =>
      isTrailing m = true ∧ c = joined n m := by
  have hhalf (x : Char) : Reads (fun _ => True) (half x) [x] () := (means_half x x).reads () rfl
  have hhex : Reads (fun _ => True) hexEscape [x, y, z, w] m := reads_hexEscape hm
  unfold secondHalf
  refine .reads_bind (hhalf '\\') (.reads_bind (hhalf 'u') (.reads_bind (u := []) hhex ?_ ?_) ?_) ?_
  · split
    next h => exact (Means.pure _).congr fun c => by simp [h]
    next h => exact Means.of_refuses (.failHere _) fun c hc => h hc.1
  all_goals exact fun _ _ => trivial

theorem refuses_secondHalf_plain (hc : c ≠ '\\') : Refuses P (secondHalf n) [c] := by
  have hhalf : Refuses (fun _ => True) (half '\\') [c] := (means_half c '\\').refuses fun _ => hc
  exact hhalf.bind (u := []) fun _ _ => trivial

theorem refuses_secondHalf_letter (hx : x ≠ 'u') : Refuses P (secondHalf n) ['\\', x] := by
  have hfirst : Reads (fun _ => True) (half '\\') ['\\'] () := (means_half '\\' '\\').reads () rfl
  have hhalf : Refuses (fun _ => True) (half 'u') [x] := (means_half x 'u').refuses fun _ => hx
  exact .reads_bind hfirst (hhalf.bind (u := []) fun _ _ => trivial) fun _ _ => trivial

end Halves

section Spellings

variable {t cs : List Char} {c x y z w : Char} {n : Nat}

theorem spelled_plain_iff (hquote : c ≠ '"') (hbackslash : c ≠ '\\') (hcontrol : isControl c = false) :
    Spelled (c :: t) cs ↔ ∃ rest, Spelled t rest ∧ cs = c :: rest := by
  constructor
  · intro h
    cases h with
    | plain _ _ _ ht => exact ⟨_, ht, rfl⟩
    | letter | code | pair => exact absurd rfl hbackslash
  · rintro ⟨rest, ht, rfl⟩
    exact .plain hquote hbackslash hcontrol ht

theorem spelled_letter_iff (hx : simpleEscape? x = some c) :
    Spelled ('\\' :: x :: t) cs ↔ ∃ rest, Spelled t rest ∧ cs = c :: rest := by
  constructor
  · intro h
    cases h with
    | plain _ hbackslash => exact absurd rfl hbackslash
    | letter hx' ht =>
      obtain rfl : _ = c := Option.some.inj (hx'.symm.trans hx)
      exact ⟨_, ht, rfl⟩
    | code | pair => cases hx
  · rintro ⟨rest, ht, rfl⟩
    exact .letter hx ht

theorem spelled_code_iff (hn : fourHex? x y z w = some n) (hleading : isLeading n = false) :
    Spelled ('\\' :: 'u' :: x :: y :: z :: w :: t) cs ↔
      ∃ rest, (isTrailing n = false ∧ Spelled t rest) ∧ cs = Char.ofNat n :: rest := by
  constructor
  · intro h
    cases h with
    | plain _ hbackslash => exact absurd rfl hbackslash
    | letter hx => cases hx
    | code hn' _ htrailing ht =>
      obtain rfl : _ = n := Option.some.inj (hn'.symm.trans hn)
      exact ⟨_, ⟨htrailing, ht⟩, rfl⟩
    | pair hn' _ hleading' =>
      obtain rfl : _ = n := Option.some.inj (hn'.symm.trans hn)
      rw [hleading] at hleading'
      contradiction
  · rintro ⟨rest, ⟨htrailing, ht⟩, rfl⟩
    exact .code hn hleading htrailing ht

theorem spelled_pair_cases (hn : fourHex? x y z w = some n) (hleading : isLeading n = true)
    (h : Spelled ('\\' :: 'u' :: x :: y :: z :: w :: t) cs) :
    ∃ x' y' z' w' m u rest, t = '\\' :: 'u' :: x' :: y' :: z' :: w' :: u ∧
      fourHex? x' y' z' w' = some m ∧ isTrailing m = true ∧ Spelled u rest ∧
      cs = joined n m :: rest := by
  cases h with
  | plain _ hbackslash => exact absurd rfl hbackslash
  | letter hx => cases hx
  | code hn' hleading' =>
    obtain rfl : _ = n := Option.some.inj (hn'.symm.trans hn)
    rw [hleading] at hleading'
    contradiction
  | pair hn' hm _ htrailing ht =>
    obtain rfl : _ = n := Option.some.inj (hn'.symm.trans hn)
    exact ⟨_, _, _, _, _, _, _, rfl, hm, htrailing, ht, rfl⟩

theorem spelled_pair_iff {x' y' z' w' : Char} {m : Nat} (hn : fourHex? x y z w = some n)
    (hm : fourHex? x' y' z' w' = some m) (hleading : isLeading n = true) :
    Spelled ('\\' :: 'u' :: x :: y :: z :: w :: '\\' :: 'u' :: x' :: y' :: z' :: w' :: t) cs ↔
      ∃ c, (isTrailing m = true ∧ c = joined n m) ∧
        ∃ rest, Spelled t rest ∧ cs = c :: rest := by
  constructor
  · intro h
    obtain ⟨_, _, _, _, m', _, rest, heq, hm', htrailing, ht, rfl⟩ :=
      spelled_pair_cases hn hleading h
    simp only [List.cons.injEq, true_and] at heq
    obtain ⟨rfl, rfl, rfl, rfl, rfl⟩ := heq
    obtain rfl : m' = m := Option.some.inj (hm'.symm.trans hm)
    exact ⟨joined n m', ⟨htrailing, rfl⟩, rest, ht, rfl⟩
  · rintro ⟨c, ⟨htrailing, hc⟩, rest, ht, hcs⟩
    rw [hcs, hc]
    exact .pair hn hm hleading htrailing ht

end Spellings

section Bodies

variable {P : List Char → Prop} {body t : List Char} {c x y z w : Char} {n fuel : Nat}

def stringAfter (fuel : Nat) (c : Char) : Reader (List Char) := do
  return c :: (← stringRest fuel)

theorem Means.stringRest_escape {G : List Char → Prop}
    (h : Means P (escape >>= stringAfter fuel) t G) :
    Means P (stringRest (fuel + 1)) ('\\' :: t) G := by
  unfold stringRest
  apply Means.peek_bind
  dsimp only
  rw [if_neg (by decide), if_pos rfl]
  exact Means.eat_bind h

theorem Means.escape_code {f : Char → Reader (List Char)} {G : List Char → Prop}
    (h : Means P (unicodeEscape >>= f) t G) : Means P (escape >>= f) ('u' :: t) G := by
  unfold escape
  rw [Reader.bind_assoc]
  apply Means.peek_bind
  show Means P ((eat >>= fun _ => unicodeEscape) >>= f) ('u' :: t) G
  rw [Reader.bind_assoc]
  exact Means.eat_bind h

theorem Means.secondHalf_bind {f : Char → Reader (List Char)} (hn : fourHex? x y z w = some n)
    (hleading : isLeading n = true) (hbody : IsStringBody t)
    (h : ∀ c u, IsStringBody u → u.length < t.length →
      Means P (f c) (u ++ ['"']) fun cs => ∃ rest, Spelled u rest ∧ cs = c :: rest) :
    Means P (secondHalf n >>= f) (t ++ ['"'])
      (Spelled ('\\' :: 'u' :: x :: y :: z :: w :: t)) := by
  cases hbody with
  | nil =>
    have hrefuses : Refuses (fun _ => True) (secondHalf n) ['"'] := refuses_secondHalf_plain (by decide)
    refine .of_refuses (hrefuses.bind (u := []) fun _ _ => trivial) fun cs hcs => ?_
    obtain ⟨_, _, _, _, _, _, _, heq, -⟩ := spelled_pair_cases hn hleading hcs
    contradiction
  | @plain c t hquote hbackslash hcontrol ht =>
    have hrefuses : Refuses (fun _ => True) (secondHalf n) [c] := refuses_secondHalf_plain hbackslash
    refine .of_refuses (hrefuses.bind (u := t ++ ['"']) fun _ _ => trivial) fun cs hcs => ?_
    obtain ⟨_, _, _, _, _, _, _, heq, -⟩ := spelled_pair_cases hn hleading hcs
    exact hbackslash (List.cons.inj heq).1
  | @letter x' c t hx ht =>
    have hu : x' ≠ 'u' := by
      rintro rfl
      cases hx
    have hrefuses : Refuses (fun _ => True) (secondHalf n) ['\\', x'] := refuses_secondHalf_letter hu
    refine .of_refuses (hrefuses.bind (u := t ++ ['"']) fun _ _ => trivial) fun cs hcs => ?_
    obtain ⟨_, _, _, _, _, _, _, heq, -⟩ := spelled_pair_cases hn hleading hcs
    exact hu (List.cons.inj (List.cons.inj heq).2).1
  | @code x' y' z' w' m t hm ht =>
    refine Means.congr ?_ fun cs => spelled_pair_iff hn hm hleading
    have hhalf := means_secondHalf (P := fun _ => True) (n := n) hm
    refine hhalf.bind (u := t ++ ['"']) (fun c _ => h c t ht ?_) fun _ _ => trivial
    simp only [List.length_cons]
    omega

theorem Means.unicodeEscape_bind {f : Char → Reader (List Char)} (hn : fourHex? x y z w = some n)
    (hbody : IsStringBody t)
    (h : ∀ c u, IsStringBody u → u.length ≤ t.length →
      Means P (f c) (u ++ ['"']) fun cs => ∃ rest, Spelled u rest ∧ cs = c :: rest) :
    Means P (unicodeEscape >>= f) ([x, y, z, w] ++ (t ++ ['"']))
      (Spelled ('\\' :: 'u' :: x :: y :: z :: w :: t)) := by
  have hhex : Reads (fun _ => True) hexEscape [x, y, z, w] n := reads_hexEscape hn
  rw [unicodeEscape_eq, Reader.bind_assoc]
  refine .reads_bind hhex ?_ fun _ _ => trivial
  by_cases hleading : isLeading n = true
  · have htrailing : isTrailing n = false := by
      simp only [isLeading, Bool.and_eq_true, decide_eq_true_eq] at hleading
      simp only [isTrailing, Bool.and_eq_false_iff, decide_eq_false_iff_not]
      omega
    rw [htrailing, if_neg Bool.false_ne_true, if_pos hleading]
    exact .secondHalf_bind hn hleading hbody fun c u hu hlength => h c u hu (Nat.le_of_lt hlength)
  · rw [if_neg hleading]
    refine Means.congr ?_ fun cs => spelled_code_iff hn (Bool.not_eq_true _ ▸ hleading)
    split
    next htrailing =>
      have hrefuses : Refuses P (failHere .loneSurrogate >>= f) (t ++ ['"']) :=
        fun _ _ _ => ⟨_, _, rfl⟩
      refine .of_refuses hrefuses ?_
      rintro cs ⟨rest, ⟨hnot, -⟩, -⟩
      rw [htrailing] at hnot
      contradiction
    next hnot =>
      refine (h (Char.ofNat n) t hbody (Nat.le_refl _)).congr fun cs => ?_
      simp [hnot]

theorem means_stringRest (hbody : IsStringBody body) (hfuel : body.length < fuel) :
    Means P (stringRest fuel) (body ++ ['"']) (Spelled body) := by
  -- Two codes are one character, so that the induction is on the fuel and not on the body.
  induction fuel generalizing body with
  | zero => contradiction
  | succ fuel ih =>
    have hafter {t : List Char} (c : Char) (ht : IsStringBody t) (hlength : t.length < fuel) :
        Means P (stringAfter fuel c) (t ++ ['"']) fun cs => ∃ rest, Spelled t rest ∧ cs = c :: rest :=
      (ih ht hlength).map_pure (c :: ·)
    cases hbody with
    | nil =>
      unfold stringRest
      apply Means.peek_bind
      dsimp only
      rw [if_pos rfl]
      refine Means.eat_bind ((Means.pure []).congr fun cs => ?_)
      exact ⟨fun h => by cases h; rfl, fun h => h ▸ .nil⟩
    | @plain c t hquote hbackslash hcontrol ht =>
      rw [List.length_cons] at hfuel
      unfold stringRest
      apply Means.peek_bind
      dsimp only
      rw [if_neg hquote, if_neg hbackslash, hcontrol, if_neg Bool.false_ne_true]
      refine Means.eat_bind ((hafter c ht (by omega)).congr fun cs => ?_)
      exact spelled_plain_iff hquote hbackslash hcontrol
    | @letter x c t hx ht =>
      rw [List.length_cons, List.length_cons] at hfuel
      refine Means.stringRest_escape (Means.congr ?_ fun cs => spelled_letter_iff hx)
      have hescape : Reads (fun _ => True) escape [x] c := reads_escape_simple hx
      exact .reads_bind (t := [x]) hescape (hafter c ht (by omega)) fun _ _ => trivial
    | @code x y z w n t hn ht =>
      refine Means.stringRest_escape (Means.escape_code (.unicodeEscape_bind hn ht fun c u hu hlength => ?_))
      simp only [List.length_cons] at hfuel
      exact hafter c hu (by omega)

theorem length_lt_of_quoted {m : Nat} (h : (body ++ ['"']).length ≤ m) : body.length < m + 1 := by
  rw [List.length_append] at h
  omega

theorem means_stringBody (hbody : IsStringBody body) :
    Means P stringBody (body ++ ['"']) fun s => Spelled body s.toList := by
  unfold stringBody
  refine Means.remaining_bind fun m hm => ?_
  refine ((means_stringRest hbody (length_lt_of_quoted hm)).map_pure String.ofList).congr fun s => ?_
  constructor
  · exact fun h => ⟨s.toList, h, String.ofList_toList.symm⟩
  · rintro ⟨cs, h, rfl⟩
    rwa [String.toList_ofList]

theorem Reads.skipStringRest_escape {e : List Char} (he : Reads (fun _ => True) skipEscape e ())
    (h : Reads P (skipStringRest fuel) t ()) :
    Reads P (skipStringRest (fuel + 1)) ('\\' :: (e ++ t)) () := by
  unfold skipStringRest
  apply Reads.peek_bind
  dsimp only
  rw [if_neg (by decide), if_pos rfl]
  exact .eat_bind (he.bind h fun _ _ => trivial)

theorem reads_skipEscape_letter (hx : simpleEscape? x = some c) : Reads P skipEscape [x] () := by
  unfold skipEscape
  apply Reads.peek_bind
  simp only [hx]
  exact .eat x

theorem reads_skipEscape_code (hn : fourHex? x y z w = some n) :
    Reads P skipEscape ['u', x, y, z, w] () := by
  unfold skipEscape
  apply Reads.peek_bind
  dsimp only
  rw [if_pos rfl]
  exact .eat_bind ((reads_hexEscape hn).map (.pure ()))

theorem reads_skipStringRest (hbody : IsStringBody body) (hfuel : body.length < fuel) :
    Reads P (skipStringRest fuel) (body ++ ['"']) () := by
  induction hbody generalizing fuel with
  | nil =>
    obtain ⟨fuel, rfl⟩ := Nat.exists_eq_add_of_lt hfuel
    unfold skipStringRest
    apply Reads.peek_bind
    dsimp only
    rw [if_pos rfl]
    exact .eat '"'
  | @plain c t hquote hbackslash hcontrol ht ih =>
    obtain ⟨fuel, rfl⟩ : ∃ n, fuel = n + 1 := ⟨fuel - 1, by omega⟩
    unfold skipStringRest
    apply Reads.peek_bind
    dsimp only
    rw [if_neg hquote, if_neg hbackslash, hcontrol, if_neg Bool.false_ne_true]
    exact .eat_bind (ih (Nat.lt_of_succ_lt_succ hfuel))
  | @letter x c t hx ht ih =>
    obtain ⟨fuel, rfl⟩ : ∃ n, fuel = n + 1 := ⟨fuel - 1, by omega⟩
    simp only [List.length_cons] at hfuel
    have hrest : Reads P (skipStringRest fuel) (t ++ ['"']) () := ih (by omega)
    have hescape : Reads (fun _ => True) skipEscape [x] () := reads_skipEscape_letter hx
    exact hescape.skipStringRest_escape hrest
  | @code x y z w n t hn ht ih =>
    obtain ⟨fuel, rfl⟩ : ∃ n, fuel = n + 1 := ⟨fuel - 1, by omega⟩
    simp only [List.length_cons] at hfuel
    have hrest : Reads P (skipStringRest fuel) (t ++ ['"']) () := ih (by omega)
    have hescape : Reads (fun _ => True) skipEscape ['u', x, y, z, w] () := reads_skipEscape_code hn
    exact hescape.skipStringRest_escape hrest

theorem reads_skipString (hbody : IsStringBody body) : Reads P skipString (body ++ ['"']) () := by
  unfold skipString
  exact Reads.remaining_bind fun m hm => reads_skipStringRest hbody (length_lt_of_quoted hm)

end Bodies

end Storefront.Json
