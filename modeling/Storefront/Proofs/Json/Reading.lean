import Mathlib.Data.List.Forall2
import Storefront.Json.Format

/-! Texts that a reader passes over whole, whatever comes after them. What the reader looks at beyond
its text is a condition on the rest. -/

namespace Storefront.Json

open Reader Format

variable {α β σ : Type}

/-- Before a rest that satisfies `P` the reader passes over exactly this text, and yields `a`. -/
def Reads (P : List Char → Prop) (r : Reader α) (text : List Char) (a : α) : Prop :=
  ∀ rest p, P rest → ∃ q, r ⟨text ++ rest, p⟩ = (.ok a, ⟨rest, q⟩)

def Begins (c : Char) (rest : List Char) : Prop :=
  rest.head? = some c

theorem begins_cons (c : Char) (rest : List Char) : Begins c (c :: rest) := rfl

def Stops (c : Char) : Prop :=
  c = ',' ∨ c = ']' ∨ c = '\x7d' ∨ isSpace c = true

def Ends (rest : List Char) : Prop :=
  ∀ c, Begins c rest → Stops c

theorem ends_nil : Ends [] := fun c h => by simp [Begins] at h

theorem ends_comma (rest : List Char) : Ends (',' :: rest) :=
  fun _ h => .inl (Option.some.inj h).symm

theorem ends_of_begins_bracket {rest : List Char} (h : Begins ']' rest) : Ends rest :=
  fun _ hc => .inr (.inl (Option.some.inj (hc.symm.trans h)))

theorem ends_of_begins_brace {rest : List Char} (h : Begins '\x7d' rest) : Ends rest :=
  fun _ hc => .inr (.inr (.inl (Option.some.inj (hc.symm.trans h))))

theorem Reader.bind_apply (r : Reader α) (f : α → Reader β) (c : Cursor) :
    (r >>= f) c = match r c with
      | (.ok a, c) => f a c
      | (.error e, c) => (.error e, c) := rfl

namespace Reads

variable {P Q : List Char → Prop} {r : Reader α} {t u : List Char} {a : α} {b : β} {c : Char}

theorem pure (a : α) : Reads P (pure a) [] a := fun _ p _ => ⟨p, rfl⟩

theorem bind {f : α → Reader β} (hr : Reads Q r t a) (hf : Reads P (f a) u b)
    (hQ : ∀ rest, P rest → Q (u ++ rest)) : Reads P (r >>= f) (t ++ u) b := by
  intro rest p hrest
  obtain ⟨q, hq⟩ := hr (u ++ rest) p (hQ rest hrest)
  obtain ⟨q', hq'⟩ := hf rest q hrest
  refine ⟨q', ?_⟩
  rw [List.append_assoc, bind_apply, hq]
  exact hq'

theorem map {f : α → Reader β} (hr : Reads P r t a) (hf : Reads P (f a) [] b) :
    Reads P (r >>= f) t b := by
  have h := hr.bind hf fun _ hrest => hrest
  rwa [List.append_nil] at h

theorem eat (c : Char) : Reads P eat [c] () := fun _ p _ => ⟨Cursor.moved p c, rfl⟩

theorem eat_bind {f : Unit → Reader α} (h : Reads P (f ()) t a) :
    Reads P (Reader.eat >>= f) (c :: t) a :=
  (eat (P := fun _ => True) c).bind h fun _ _ => trivial

theorem peek (c : Char) : Reads (Begins c) peek [] (some c) :=
  fun rest p hrest => ⟨p, congrArg (fun o => (Except.ok o, (⟨rest, p⟩ : Cursor))) hrest⟩

theorem peek_bind {f : Option Char → Reader α} (h : Reads P (f (some c)) (c :: t) a) :
    Reads P (Reader.peek >>= f) (c :: t) a :=
  (peek c).bind h fun rest _ => begins_cons c (t ++ rest)

theorem peek_stops {f : Option Char → Reader α}
    (h : ∀ next, (∀ c, next = some c → Stops c) → Reads Ends (f next) [] a) :
    Reads Ends (Reader.peek >>= f) [] a :=
  fun rest p hrest => h rest.head? hrest rest p hrest

theorem peekToken (hc : isSpace c = false) : Reads (Begins c) peekToken [] (some c) := by
  intro rest p hrest
  obtain ⟨rest, rfl⟩ : ∃ rest', rest = c :: rest' := List.head?_eq_some_iff.1 hrest
  refine ⟨p, ?_⟩
  show (Except.ok ((c :: rest).dropWhile isSpace).head?,
    (⟨(c :: rest).dropWhile isSpace, ((c :: rest).takeWhile isSpace).foldl _ p⟩ : Cursor)) = _
  rw [List.dropWhile_cons_of_neg (by simp [hc]), List.takeWhile_cons_of_neg (by simp [hc])]
  rfl

theorem peekToken_bind {f : Option Char → Reader α} (hc : isSpace c = false)
    (h : Reads P (f (some c)) (c :: t) a) : Reads P (Reader.peekToken >>= f) (c :: t) a :=
  (peekToken hc).bind h fun rest _ => begins_cons c (t ++ rest)

theorem peekValue_bind {f : Char → Reader α} (hc : isSpace c = false)
    (h : Reads P (f c) (c :: t) a) : Reads P (peekValue >>= f) (c :: t) a := by
  have hvalue : Reads (Begins c) peekValue [] c :=
    (peekToken hc).map (.pure c)
  exact hvalue.bind h fun rest _ => begins_cons c (t ++ rest)

theorem remaining_bind {f : Nat → Reader α} (h : ∀ n, t.length ≤ n → Reads P (f n) t a) :
    Reads P (remaining >>= f) t a := by
  intro rest p hrest
  exact h (t ++ rest).length (by rw [List.length_append]; exact Nat.le_add_right _ _) rest p hrest

theorem ofExcept {x : Except Cause α} (hx : x = .ok a) : Reads P (ofExcept x) [] a := by
  rw [hx]
  exact .pure a

theorem positioned (h : Reads P r t a) : Reads P (positioned r) t a := by
  intro rest p hrest
  obtain ⟨q, hq⟩ := h rest p hrest
  exact ⟨q, by rw [Reader.positioned, hq]⟩

theorem closing {close : Reader Unit} (hr : Reads Q r t a) (hclose : Reads P close u ())
    (hQ : ∀ rest, P rest → Q (u ++ rest)) : Reads P (closing r close) (t ++ u) a := by
  intro rest p hrest
  obtain ⟨q, hq⟩ := hr (u ++ rest) p (hQ rest hrest)
  obtain ⟨q', hq'⟩ := hclose rest q hrest
  refine ⟨q', ?_⟩
  rw [List.append_assoc, Reader.closing, hq]
  dsimp only
  rw [hq']

theorem word (w : List Char) : Reads P (word w) w () := by
  induction w with
  | nil => exact .pure ()
  | cons x w ih =>
    unfold Reader.word
    apply peek_bind
    dsimp only
    rw [if_pos rfl]
    exact eat_bind ih

theorem endList : Reads P endList [']'] () := by
  unfold Json.endList
  exact peekToken_bind rfl (eat ']')

theorem endObject : Reads P endObject ['\x7d'] () := by
  unfold Json.endObject
  exact peekToken_bind rfl (eat '\x7d')

theorem colon_bind {f : Unit → Reader α} (h : Reads P (f ()) t a) :
    Reads P (colon >>= f) (':' :: t) a := by
  have hcolon : Reads (fun _ => True) colon [':'] () := by
    unfold colon
    exact peekToken_bind rfl (eat ':')
  exact hcolon.bind h fun _ _ => trivial

theorem bracketed {depth : Nat} {body : Nat → Reader α} {close : Reader Unit}
    (hbody : Reads Q (body (depth + 1)) t a) (hclose : Reads P close u ())
    (hQ : ∀ rest, P rest → Q (u ++ rest)) :
    Reads P (bracketed (depth + 2) body close) (c :: (t ++ u)) a := by
  unfold Json.bracketed
  exact (eat_bind hbody).closing hclose hQ

end Reads

def Opens (c : Char) : Prop :=
  isSpace c = false ∧ c ≠ ']' ∧ c ≠ '\x7d'

def StartsValue (text : List Char) : Prop :=
  ∃ c rest, text = c :: rest ∧ Opens c

def lead (first : Bool) : List Char :=
  if first then [] else [',']

def listed : Bool → List (List Char) → List Char
  | _, [] => []
  | first, t :: ts => lead first ++ (t ++ listed false ts)

theorem commas_eq_listed (ts : List (List Char)) : commas ts = listed true ts := by
  induction ts with
  | nil => rfl
  | cons t ts ih =>
    cases ts with
    | nil => exact (List.append_nil t).symm
    | cons u ts =>
      rw [commas, ih]
      · rfl
      · simp

theorem ends_listed (ts : List (List Char)) {rest : List Char} (h : Ends rest) :
    Ends (listed false ts ++ rest) := by
  cases ts with
  | nil => exact h
  | cons t ts => exact ends_comma _

theorem StartsValue.ne_nil {text : List Char} (h : StartsValue text) : text ≠ [] := by
  obtain ⟨c, rest, rfl, -⟩ := h
  exact List.cons_ne_nil c rest

theorem length_le_length_listed {ts : List (List Char)} (h : ∀ t ∈ ts, t ≠ []) (first : Bool) :
    ts.length ≤ (listed first ts).length := by
  induction ts generalizing first with
  | nil => exact Nat.zero_le _
  | cons t ts ih =>
    rw [List.forall_mem_cons] at h
    have ht : 0 < t.length := List.length_pos_of_ne_nil h.1
    have hrest := ih h.2 false
    simp only [listed, List.length_cons, List.length_append]
    omega

namespace Reads

variable {P : List Char → Prop} {t u : List Char} {c : Char}

theorem nextElement (first : Bool) (hc : Opens c) :
    Reads (Begins c) (nextElement first) (lead first) true := by
  unfold Json.nextElement
  cases first with
  | true =>
    refine (peekToken hc.1).map ?_
    dsimp only
    rw [if_neg hc.2.1, if_pos rfl]
    exact .pure true
  | false =>
    refine peekToken_bind rfl (eat_bind ((peekToken hc.1).map ?_))
    dsimp only
    rw [if_neg hc.2.1]
    exact .pure true

theorem nextElement_end (first : Bool) : Reads (Begins ']') (Json.nextElement first) [] false := by
  unfold Json.nextElement
  exact (peekToken rfl).map (.pure false)

theorem elements {item : Reader α} {ts : List (List Char)} {as : List α}
    (h : List.Forall₂ (fun t a => StartsValue t ∧ Reads Ends item t a) ts as) (first : Bool)
    {fuel : Nat} (hfuel : ts.length < fuel) :
    Reads (Begins ']') (elements item fuel first) (listed first ts) as := by
  induction h generalizing first fuel with
  | nil =>
    obtain ⟨fuel, rfl⟩ := Nat.exists_eq_add_of_lt hfuel
    unfold Json.elements
    exact (nextElement_end first).map (.pure [])
  | @cons t a ts as hitem _ ih =>
    obtain ⟨fuel, rfl⟩ : ∃ n, fuel = n + 1 := ⟨fuel - 1, by omega⟩
    obtain ⟨⟨c, u, rfl, hc⟩, hread⟩ := hitem
    have hrest := ih false (Nat.lt_of_succ_lt_succ hfuel)
    unfold Json.elements
    refine (nextElement first hc).bind ?_ fun rest _ => begins_cons c _
    refine hread.bind (hrest.map (.pure _)) fun rest hr => ?_
    exact ends_listed ts (ends_of_begins_bracket hr)

theorem allElements {item : Reader α} {ts : List (List Char)} {as : List α}
    (h : List.Forall₂ (fun t a => StartsValue t ∧ Reads Ends item t a) ts as) (first : Bool) :
    Reads (Begins ']') (allElements item first) (listed first ts) as := by
  have hlength := length_le_length_listed
    (fun t ht => (((List.forall₂_and_left ts as).1 h).1 t ht).ne_nil) first
  unfold Json.allElements
  apply remaining_bind
  intro n hn
  exact elements h first (Nat.lt_succ_of_le (Nat.le_trans hlength hn))

end Reads
end Storefront.Json
