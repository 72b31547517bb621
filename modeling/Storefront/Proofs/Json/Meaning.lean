import Storefront.Proofs.Json.Grammar
import Storefront.Proofs.Json.Reading

/-! What a text means to a reader: the values that it can be read as, and that it is refused when
there is none. -/

namespace Storefront.Json

open Reader Format

variable {α β : Type}

def Refuses (P : List Char → Prop) (r : Reader α) (t : List Char) : Prop :=
  ∀ rest p, P rest → ∃ e c, r ⟨t ++ rest, p⟩ = (.error e, c)

/-- The text is read as each value that satisfies `G`, and refused if none does. -/
structure Means (P : List Char → Prop) (r : Reader α) (t : List Char) (G : α → Prop) : Prop where
  reads : ∀ a, G a → Reads P r t a
  refuses : (∀ a, ¬G a) → Refuses P r t

abbrev Decided (P : List Char → Prop) (r : Reader α) (t : List Char) : Prop :=
  Means P r t (Reads P r t)

variable {P Q : List Char → Prop} {r : Reader α} {t u : List Char} {a b : α} {c : Char}
  {G H : α → Prop}

theorem Reads.unique (h : Reads P r t a) (h' : Reads P r t b) {rest : List Char} (hrest : P rest) :
    a = b := by
  obtain ⟨q, hq⟩ := h rest ⟨1, 0⟩ hrest
  obtain ⟨q', hq'⟩ := h' rest ⟨1, 0⟩ hrest
  exact Except.ok.inj (Prod.mk.inj (hq.symm.trans hq')).1

theorem Reads.mono (h : Reads Q r t a) (hPQ : ∀ rest, P rest → Q rest) : Reads P r t a :=
  fun rest p hrest => h rest p (hPQ rest hrest)

theorem Reads.not_refuses (h : Reads P r t a) {rest : List Char} (hrest : P rest) :
    ¬Refuses P r t := by
  intro hrefuses
  obtain ⟨q, hq⟩ := h rest ⟨1, 0⟩ hrest
  obtain ⟨e, c, he⟩ := hrefuses rest ⟨1, 0⟩ hrest
  rw [hq] at he
  cases he

theorem Reads.bind_eq {f : α → Reader β} (hr : Reads Q r t a) (hQ : ∀ rest, P rest → Q (u ++ rest))
    {rest : List Char} (hrest : P rest) (p : Position) :
    ∃ q, (r >>= f) ⟨(t ++ u) ++ rest, p⟩ = f a ⟨u ++ rest, q⟩ := by
  obtain ⟨q, hq⟩ := hr (u ++ rest) p (hQ rest hrest)
  refine ⟨q, ?_⟩
  rw [List.append_assoc, Reader.bind_apply, hq]

namespace Refuses

theorem bind {f : α → Reader β} (h : Refuses Q r t) (hQ : ∀ rest, P rest → Q (u ++ rest)) :
    Refuses P (r >>= f) (t ++ u) := by
  intro rest p hrest
  obtain ⟨e, c, he⟩ := h (u ++ rest) p (hQ rest hrest)
  refine ⟨e, c, ?_⟩
  rw [List.append_assoc, Reader.bind_apply, he]

theorem reads_bind {f : α → Reader β} (hr : Reads Q r t a) (h : Refuses P (f a) u)
    (hQ : ∀ rest, P rest → Q (u ++ rest)) : Refuses P (r >>= f) (t ++ u) := by
  intro rest p hrest
  obtain ⟨q, hq⟩ := hr.bind_eq (f := f) hQ hrest p
  rw [hq]
  exact h rest q hrest

theorem fail (cause : Cause) : Refuses P (fail cause : Reader α) t :=
  fun _ _ _ => ⟨_, _, rfl⟩

theorem failHere (cause : Cause) : Refuses P (failHere cause : Reader α) t :=
  fun _ _ _ => ⟨_, _, rfl⟩

theorem failAhead (cause : Cause) : Refuses P (failAhead cause : Reader α) t :=
  fun _ _ _ => ⟨_, _, rfl⟩

theorem wrongKind (expected : String) (x : Char) : Refuses P (wrongKind expected x : Reader α) t := by
  intro rest p _
  rcases hfound : foundHere x ⟨t ++ rest, p⟩ with ⟨e | found, c⟩
  · obtain ⟨cause, position⟩ := e
    cases position <;>
      simp [Json.wrongKind, Reader.positioned, Reader.bind_apply, hfound]
  · simp [Json.wrongKind, Reader.positioned, Reader.bind_apply, hfound, Reader.fail]

end Refuses

namespace Means

theorem of_reads (h : Reads P r t a) : Means P r t (· = a) where
  reads _ hb := hb ▸ h
  refuses hnone := absurd rfl (hnone a)

theorem of_refuses (h : Refuses P r t) (hnone : ∀ a, ¬G a) : Means P r t G where
  reads a ha := absurd ha (hnone a)
  refuses _ := h

theorem pure (a : α) : Means P (pure a) [] (· = a) :=
  of_reads (.pure a)

theorem congr (h : Means P r t G) (hG : ∀ a, H a ↔ G a) : Means P r t H where
  reads a ha := h.reads a ((hG a).1 ha)
  refuses hnone := h.refuses fun a ha => hnone a ((hG a).2 ha)

theorem iff (h : Means P r t G) {rest : List Char} (hrest : P rest) : Reads P r t a ↔ G a := by
  refine ⟨fun hread => ?_, h.reads a⟩
  by_cases hsome : ∃ b, G b
  · obtain ⟨b, hb⟩ := hsome
    rwa [hread.unique (h.reads b hb) hrest]
  · exact absurd (h.refuses (not_exists.1 hsome)) (hread.not_refuses hrest)

theorem decided (h : Means P r t G) : Decided P r t where
  reads _ ha := ha
  refuses hnone := h.refuses fun a ha => hnone a (h.reads a ha)

theorem bind {f : α → Reader β} {K : α → β → Prop} (hr : Means Q r t G)
    (hf : ∀ a, G a → Means P (f a) u (K a)) (hQ : ∀ rest, P rest → Q (u ++ rest)) :
    Means P (r >>= f) (t ++ u) fun b => ∃ a, G a ∧ K a b where
  reads := by
    rintro b ⟨a, ha, hb⟩
    exact (hr.reads a ha).bind ((hf a ha).reads b hb) hQ
  refuses hnone := by
    by_cases hsome : ∃ a, G a
    · obtain ⟨a, ha⟩ := hsome
      have hrest := (hf a ha).refuses fun b hb => hnone b ⟨a, ha, hb⟩
      exact .reads_bind (hr.reads a ha) hrest hQ
    · exact (hr.refuses (not_exists.1 hsome)).bind hQ

theorem reads_bind {f : α → Reader β} {K : β → Prop} (hr : Reads Q r t a) (hf : Means P (f a) u K)
    (hQ : ∀ rest, P rest → Q (u ++ rest)) : Means P (r >>= f) (t ++ u) K where
  reads b hb := hr.bind (hf.reads b hb) hQ
  refuses hnone := .reads_bind hr (hf.refuses hnone) hQ

theorem reads_map {f : α → Reader β} {K : β → Prop} (hr : Reads P r t a) (hf : Means P (f a) [] K) :
    Means P (r >>= f) t K := by
  have h := reads_bind hr hf fun _ hrest => hrest
  rwa [List.append_nil] at h

theorem map {f : α → Reader β} {K : α → β → Prop} (hr : Means P r t G)
    (hf : ∀ a, G a → Means P (f a) [] (K a)) :
    Means P (r >>= f) t fun b => ∃ a, G a ∧ K a b := by
  have h := hr.bind hf fun _ hrest => hrest
  rwa [List.append_nil] at h

theorem map_pure (f : α → β) (hr : Means P r t G) :
    Means P (r >>= fun a => Pure.pure (f a)) t fun b => ∃ a, G a ∧ b = f a :=
  hr.map fun a _ => pure (f a)

theorem ofExcept (x : Except Cause α) : Means P (ofExcept x) [] (x = .ok ·) := by
  cases x with
  | ok a => exact (pure a).congr fun b => by rw [Except.ok.injEq, eq_comm]
  | error cause => exact of_refuses (.fail cause) fun b => by simp

theorem eat_bind {f : Unit → Reader α} (h : Means P (f ()) t G) :
    Means P (Reader.eat >>= f) (c :: t) G :=
  reads_bind (t := [c]) (.eat (P := fun _ => True) c) h fun _ _ => trivial

theorem peek_bind {f : Option Char → Reader α} (h : Means P (f (some c)) (c :: t) G) :
    Means P (Reader.peek >>= f) (c :: t) G :=
  reads_bind (t := []) (.peek c) h fun rest _ => begins_cons c (t ++ rest)

theorem peek_nil {f : Option Char → Reader α} {N : Option Char → Prop}
    (hN : ∀ rest, P rest → N rest.head?) (hf : ∀ next, N next → f next = r)
    (h : Means P r [] G) : Means P (Reader.peek >>= f) [] G := by
  have heq (rest : List Char) (p : Position) (hrest : P rest) :
      (Reader.peek >>= f) ⟨rest, p⟩ = r ⟨rest, p⟩ := by
    rw [← hf rest.head? (hN rest hrest)]
    rfl
  constructor
  · intro a ha rest p hrest
    rw [List.nil_append, heq rest p hrest]
    exact h.reads a ha rest p hrest
  · intro hnone rest p hrest
    rw [List.nil_append, heq rest p hrest]
    exact h.refuses hnone rest p hrest

theorem remaining_bind {f : Nat → Reader α} (h : ∀ n, t.length ≤ n → Means P (f n) t G) :
    Means P (remaining >>= f) t G where
  reads a ha := .remaining_bind fun n hn => (h n hn).reads a ha
  refuses hnone := by
    intro rest p hrest
    have hn : t.length ≤ (t ++ rest).length := by
      rw [List.length_append]
      exact Nat.le_add_right _ _
    exact (h _ hn).refuses hnone rest p hrest

theorem positioned (h : Means P r t G) : Means P (positioned r) t G where
  reads a ha := .positioned (h.reads a ha)
  refuses hnone := by
    intro rest p hrest
    obtain ⟨⟨cause, position⟩, c, he⟩ := h.refuses hnone rest p hrest
    cases position <;> simp [Reader.positioned, he]

/-- For what is read it makes no difference that the second reader runs after a failure as well. -/
theorem closing {close : Reader Unit}
    (h : Means P (r >>= fun a => close >>= fun _ => Pure.pure a) t G) :
    Means P (closing r close) t G where
  reads a ha := by
    intro rest p hrest
    obtain ⟨q, hq⟩ := h.reads a ha rest p hrest
    refine ⟨q, ?_⟩
    rw [Reader.bind_apply] at hq
    rw [Reader.closing]
    rcases hbody : r ⟨t ++ rest, p⟩ with ⟨e | b, c⟩
    · simp [hbody] at hq
    · rw [hbody] at hq
      simp only [Reader.bind_apply] at hq ⊢
      rcases hclose : close c with ⟨e | u, c'⟩
      · simp [hclose] at hq
      · rw [hclose] at hq
        exact hq
  refuses hnone := by
    intro rest p hrest
    obtain ⟨e, c', he⟩ := h.refuses hnone rest p hrest
    rw [Reader.bind_apply] at he
    rw [Reader.closing]
    rcases hbody : r ⟨t ++ rest, p⟩ with ⟨e' | b, c⟩
    · exact ⟨e', _, rfl⟩
    · rw [hbody] at he
      simp only [Reader.bind_apply] at he ⊢
      rcases hclose : close c with ⟨e' | u, c''⟩
      · exact ⟨e', _, rfl⟩
      · rw [hclose] at he
        exact absurd he (by simp [Pure.pure])

end Means

theorem Reader.bind_assoc {γ : Type} (r : Reader α) (f : α → Reader β) (g : β → Reader γ) :
    (r >>= f) >>= g = r >>= fun a => f a >>= g := by
  funext c
  simp only [Reader.bind_apply]
  rcases r c with ⟨e | a, c'⟩ <;> rfl

section Gaps

variable {gap : List Char}

theorem Reads.peekToken_gap (hgap : IsGap gap) (hc : isSpace c = false) :
    Reads (Begins c) Reader.peekToken gap (some c) := by
  intro rest p hrest
  obtain ⟨rest, rfl⟩ : ∃ rest', rest = c :: rest' := List.head?_eq_some_iff.1 hrest
  refine ⟨gap.foldl Cursor.moved p, ?_⟩
  have hdrop : (gap ++ c :: rest).dropWhile isSpace = c :: rest := by
    rw [List.dropWhile_append_of_pos hgap, List.dropWhile_cons_of_neg (by simp [hc])]
  have htake : (gap ++ c :: rest).takeWhile isSpace = gap := by
    rw [List.takeWhile_append_of_pos hgap, List.takeWhile_cons_of_neg (by simp [hc]),
      List.append_nil]
  show (Except.ok ((gap ++ c :: rest).dropWhile isSpace).head?,
    (⟨(gap ++ c :: rest).dropWhile isSpace,
      ((gap ++ c :: rest).takeWhile isSpace).foldl _ p⟩ : Cursor)) = _
  rw [hdrop, htake]
  rfl

theorem Reads.token_bind {f : Option Char → Reader α} (hgap : IsGap gap) (hc : isSpace c = false)
    (h : Reads P (f (some c)) (c :: t) a) : Reads P (Reader.peekToken >>= f) (gap ++ c :: t) a :=
  (Reads.peekToken_gap hgap hc).bind h fun rest _ => begins_cons c (t ++ rest)

theorem Means.token_bind {f : Option Char → Reader α} (hgap : IsGap gap) (hc : isSpace c = false)
    (h : Means P (f (some c)) (c :: t) G) : Means P (Reader.peekToken >>= f) (gap ++ c :: t) G :=
  .reads_bind (.peekToken_gap hgap hc) h fun rest _ => begins_cons c (t ++ rest)

theorem Means.peekValue_bind {f : Char → Reader α} (hgap : IsGap gap) (hc : isSpace c = false)
    (h : Means P (f c) (c :: t) G) : Means P (Json.peekValue >>= f) (gap ++ c :: t) G := by
  have hvalue : Reads (Begins c) Json.peekValue gap c := (Reads.peekToken_gap hgap hc).map (.pure c)
  exact .reads_bind hvalue h fun rest _ => begins_cons c (t ++ rest)

theorem Reads.colon (hgap : IsGap gap) : Reads P Json.colon (gap ++ [':']) () := by
  unfold Json.colon
  exact (Reads.peekToken_gap hgap rfl).bind (.eat ':') fun rest _ => begins_cons ':' rest

theorem Reads.endList_gap (hgap : IsGap gap) : Reads P Json.endList (gap ++ [']']) () := by
  unfold Json.endList
  exact (Reads.peekToken_gap hgap rfl).bind (.eat ']') fun rest _ => begins_cons ']' rest

end Gaps

section Brackets

variable {body : Nat → Reader α} {close : Reader Unit} {depth : Nat}

theorem Means.bracketed
    (h : Means P (body (depth + 1) >>= fun a => close >>= fun _ => Pure.pure a) t G) :
    Means P (bracketed (depth + 2) body close) (c :: t) G := by
  unfold Json.bracketed
  apply Means.closing
  rw [Reader.bind_assoc]
  exact .eat_bind h

theorem Refuses.bracketed (hdepth : depth < 2) : Refuses P (bracketed depth body close) t := by
  obtain rfl | rfl : depth = 0 ∨ depth = 1 := by omega
  · exact .failAhead _
  · exact .failAhead _

theorem Means.of_depth {K : Nat → α → Prop}
    (h : ∀ d, Means P (Json.bracketed (d + 2) body close) t (K d)) :
    Means P (Json.bracketed depth body close) t fun a => ∃ d, depth = d + 2 ∧ K d a := by
  by_cases hdepth : depth < 2
  · refine .of_refuses (.bracketed hdepth) ?_
    rintro a ⟨d, rfl, -⟩
    omega
  · obtain ⟨d, rfl⟩ : ∃ d, depth = d + 2 := ⟨depth - 2, by omega⟩
    exact (h d).congr fun a => by simp

end Brackets

end Storefront.Json
