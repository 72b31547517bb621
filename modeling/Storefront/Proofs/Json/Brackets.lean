import Storefront.Proofs.Json.Skipping

/-! What the loops over the values between brackets read: the values of all items, and the state to
which the members lead one after the other. -/

namespace Storefront.Json

open Reader Format

variable {α β σ : Type} {P : List Char → Prop} {gap blank : List Char} {first : Bool} {fuel : Nat} {c : Char}

section Lists

variable {item : Reader α} {i : Item} {items : List Item}

theorem reads_nextElement (hgap : IsGap gap) (hbefore : IsGap i.before) (hc : Opens c) (first : Bool) :
    Reads (Begins c) (nextElement first) (gap ++ (lead first ++ i.before)) true := by
  unfold nextElement
  cases first with
  | true =>
    refine (Reads.peekToken_gap (hgap.append hbefore) hc.1).map ?_
    dsimp only
    rw [if_neg hc.2.1, if_pos rfl]
    exact .pure true
  | false =>
    refine Reads.token_bind hgap rfl (.eat_bind ((Reads.peekToken_gap hbefore hc.1).map ?_))
    dsimp only
    rw [if_neg hc.2.1]
    exact .pure true

theorem reads_nextElement_end (hgap : IsGap gap) (first : Bool) :
    Reads (Begins ']') (nextElement first) gap false := by
  unfold nextElement
  exact (Reads.peekToken_gap hgap rfl).map (.pure false)

structure Item.Stands (item : Reader α) (i : Item) : Prop where
  spaced : i.Spaced
  starts : StartsValue i.value
  decided : Decided Ends item i.value

theorem Means.nextElement_bind {f : Bool → Reader β} {g : α → Reader β} {K : α → β → Prop}
    {texts : List (List Char)} {back : List Char} (hi : i.Stands item) (hgap : IsGap gap) (first : Bool)
    (hf : f true = item >>= g)
    (hrest : ∀ a, Means P (g a) (i.after ++ (listed false texts ++ back)) (K a))
    (hends : ∀ rest, P rest → Ends ((i.after ++ (listed false texts ++ back)) ++ rest)) :
    Means P (nextElement first >>= f) (gap ++ (listed first (i.text :: texts) ++ back))
      fun b => ∃ a, Reads Ends item i.value a ∧ K a b := by
  obtain ⟨c, t, hvalue, hc⟩ := hi.starts
  have hnext := reads_nextElement hgap hi.spaced.before hc first
  have hboth := hi.decided.bind (fun a _ => hrest a) hends
  have htext : gap ++ (listed first (i.text :: texts) ++ back) =
      (gap ++ (lead first ++ i.before)) ++ (i.value ++ (i.after ++ (listed false texts ++ back))) := by
    simp only [listed, Item.text, List.append_assoc]
  rw [htext]
  refine .reads_bind hnext ?_ fun rest _ => ?_
  · rw [hf]
    exact hboth
  · rw [hvalue]
    exact begins_cons c _

theorem means_elements (hitems : ∀ i ∈ items, i.Stands item) (hblank : IsGap blank) (hgap : IsGap gap)
    (first : Bool) (hfuel : items.length < fuel) :
    Means (Begins ']') (elements item fuel first)
      (gap ++ (listed first (items.map Item.text) ++ blank))
      fun as => List.Forall₂ (fun i a => Reads Ends item i.value a) items as := by
  induction items generalizing gap first fuel with
  | nil =>
    obtain ⟨fuel, rfl⟩ := Nat.exists_eq_add_of_lt hfuel
    unfold elements
    refine Means.congr ?_ fun as => List.forall₂_nil_left_iff
    exact .reads_map (reads_nextElement_end (hgap.append hblank) first) (.pure [])
  | cons i items ih =>
    obtain ⟨fuel, rfl⟩ : ∃ n, fuel = n + 1 := ⟨fuel - 1, by omega⟩
    obtain ⟨hi, hitems⟩ := List.forall_mem_cons.1 hitems
    have hrest := ih hitems hi.spaced.after false (Nat.lt_of_succ_lt_succ hfuel)
    have hends (rest : List Char) (hr : Begins ']' rest) :=
      ends_behind hi.spaced.after hblank (items.map Item.text) (ends_of_begins_bracket hr)
    unfold elements
    refine (Means.nextElement_bind hi hgap first rfl (fun a => hrest.map_pure (a :: ·)) hends).congr
      fun as => ?_
    rw [List.forall₂_cons_left_iff]
    constructor
    · rintro ⟨a, as, ha, has, h⟩
      exact ⟨a, ha, as, has, h⟩
    · rintro ⟨a, ha, as, has, h⟩
      exact ⟨a, as, ha, has, h⟩

theorem length_le_length_text {text : β → List Char} {xs : List β}
    (hne : ∀ x ∈ xs, text x ≠ []) (gap blank : List Char) (first : Bool) :
    xs.length ≤ (gap ++ (listed first (xs.map text) ++ blank)).length := by
  have h : (xs.map text).length ≤ (listed first (xs.map text)).length := by
    apply length_le_length_listed
    intro t ht
    obtain ⟨x, hx, rfl⟩ := List.mem_map.1 ht
    exact hne x hx
  rw [List.length_map] at h
  simp only [List.length_append]
  omega

theorem Item.Stands.text_ne_nil (hi : i.Stands item) : i.text ≠ [] := by
  obtain ⟨c, t, hvalue, -⟩ := hi.starts
  simp [Item.text, hvalue]

theorem means_allElements (hitems : ∀ i ∈ items, i.Stands item) (hblank : IsGap blank) (hgap : IsGap gap)
    (first : Bool) :
    Means (Begins ']') (allElements item first)
      (gap ++ (listed first (items.map Item.text) ++ blank))
      fun as => List.Forall₂ (fun i a => Reads Ends item i.value a) items as := by
  have hlength := length_le_length_text (fun i hi => (hitems i hi).text_ne_nil) gap blank first
  unfold allElements
  refine Means.remaining_bind fun n hn => ?_
  exact means_elements hitems hblank hgap first (Nat.lt_succ_of_le (Nat.le_trans hlength hn))

end Lists

/-- Steps that lead, one for each of these, from the first state to the last. -/
inductive Through (step : β → σ → σ → Prop) : List β → σ → σ → Prop
  | nil (s : σ) : Through step [] s s
  | cons {x : β} {xs : List β} {s s₁ s₂ : σ} (head : step x s s₁) (tail : Through step xs s₁ s₂) :
      Through step (x :: xs) s s₂

namespace Through

variable {step : β → σ → σ → Prop} {x y : β} {xs ys : List β} {s s' : σ}

theorem nil_iff : Through step [] s s' ↔ s' = s := by
  constructor
  · intro h
    cases h
    rfl
  · rintro rfl
    exact .nil s'

theorem cons_iff : Through step (x :: xs) s s' ↔ ∃ s₁, step x s s₁ ∧ Through step xs s₁ s' := by
  constructor
  · intro h
    cases h with
    | cons head tail => exact ⟨_, head, tail⟩
  · rintro ⟨s₁, head, tail⟩
    exact .cons head tail

theorem mono {step' : β → σ → σ → Prop} (h : Through step xs s s')
    (hstep : ∀ x ∈ xs, ∀ s s', step x s s' → step' x s s') : Through step' xs s s' := by
  induction h with
  | nil s => exact .nil s
  | cons head _ ih =>
    rw [List.forall_mem_cons] at hstep
    exact .cons (hstep.1 _ _ head) (ih hstep.2)

theorem map_iff {γ : Type} {f : γ → β} {zs : List γ} :
    Through step (zs.map f) s s' ↔ Through (fun z => step (f z)) zs s s' := by
  induction zs generalizing s with
  | nil => rw [List.map_nil, nil_iff, nil_iff]
  | cons z zs ih => simp only [List.map_cons, cons_iff, ih]

theorem perm (hswap : ∀ x y s s₁ s₂, step x s s₁ → step y s₁ s₂ → ∃ s₁', step y s s₁' ∧ step x s₁' s₂)
    (h : Through step xs s s') (hperm : xs.Perm ys) : Through step ys s s' := by
  induction hperm generalizing s with
  | nil => exact h
  | cons x _ ih =>
    obtain ⟨s₁, head, tail⟩ := cons_iff.1 h
    exact .cons head (ih tail)
  | swap x y xs =>
    obtain ⟨s₁, hy, tail⟩ := cons_iff.1 h
    obtain ⟨s₂, hx, tail⟩ := cons_iff.1 tail
    obtain ⟨s₁', hx', hy'⟩ := hswap y x s s₁ s₂ hy hx
    exact .cons hx' (.cons hy' tail)
  | trans _ _ ih ih' => exact ih' (ih h)

end Through

section Objects

variable {member : σ → String → Reader σ} {m : Member} {ms : List Member} {s : σ}

def Member.rest (m : Member) : List Char :=
  m.gap ++ ':' :: (m.item.before ++ m.item.value)

def Member.Takes (member : σ → String → Reader σ) (m : Member) (s s' : σ) : Prop :=
  ∃ key : String, Spelled m.key key.toList ∧ Reads Ends (member s key) m.rest s'

theorem means_nextKey (hgap : IsGap gap) (hm : m.Spaced) (first : Bool) :
    Means P (nextKey first) (gap ++ (lead first ++ (m.before ++ '"' :: (m.key ++ ['"']))))
      fun o => ∃ key : String, Spelled m.key key.toList ∧ o = some key := by
  have hkey : Means P (keyHere '"') ('"' :: (m.key ++ ['"']))
      fun o => ∃ key : String, Spelled m.key key.toList ∧ o = some key := by
    unfold keyHere
    rw [if_pos rfl]
    exact .eat_bind ((means_stringBody hm.key).map_pure some)
  unfold nextKey
  cases first with
  | true =>
    rw [lead, if_pos rfl, List.nil_append, ← List.append_assoc]
    exact .token_bind (hgap.append hm.before) rfl hkey
  | false => exact .token_bind hgap rfl (.eat_bind (.token_bind hm.before rfl hkey))

theorem reads_nextKey_end (hgap : IsGap gap) (first : Bool) :
    Reads (Begins '\x7d') (nextKey first) gap none := by
  unfold nextKey
  exact (Reads.peekToken_gap hgap rfl).map (.pure none)

structure Member.Stands (member : σ → String → Reader σ) (m : Member) : Prop where
  spaced : m.Spaced
  decided : ∀ s key, Decided Ends (member s key) m.rest

theorem means_members (hms : ∀ m ∈ ms, m.Stands member) (hblank : IsGap blank) (hgap : IsGap gap)
    (first : Bool) (s : σ) (hfuel : ms.length < fuel) :
    Means (Begins '\x7d') (members member fuel first s)
      (gap ++ (listed first (ms.map Member.text) ++ blank)) (Through (Member.Takes member) ms s) := by
  induction ms generalizing gap first s fuel with
  | nil =>
    obtain ⟨fuel, rfl⟩ := Nat.exists_eq_add_of_lt hfuel
    unfold members
    refine Means.congr ?_ fun s' => Through.nil_iff
    exact .reads_map (reads_nextKey_end (hgap.append hblank) first) (.pure s)
  | cons m ms ih =>
    obtain ⟨fuel, rfl⟩ : ∃ n, fuel = n + 1 := ⟨fuel - 1, by omega⟩
    obtain ⟨hm, hms⟩ := List.forall_mem_cons.1 hms
    have hrest (s : σ) := ih hms hm.spaced.item.after false s (Nat.lt_of_succ_lt_succ hfuel)
    have htext : gap ++ (listed first ((m :: ms).map Member.text) ++ blank) =
        (gap ++ (lead first ++ (m.before ++ '"' :: (m.key ++ ['"'])))) ++
          (m.rest ++ (m.item.after ++ (listed false (ms.map Member.text) ++ blank))) := by
      simp only [List.map_cons, listed, Member.text, Member.rest, Item.text, List.append_assoc,
        List.cons_append, List.nil_append]
    have hmember (key : String) := (hm.decided s key).bind (fun s₁ _ => hrest s₁) fun rest hr =>
        ends_behind hm.spaced.item.after hblank (ms.map Member.text) (ends_of_begins_brace hr)
    rw [htext]
    unfold members
    have hnext := means_nextKey (P := fun _ => True) hgap hm.spaced first
    -- The loop goes on by the key that is read, so what follows is stated for whichever it is.
    refine Means.congr (hnext.bind (K := fun o s' => ∀ key, o = some key →
      ∃ s₁, Reads Ends (member s key) m.rest s₁ ∧ Through (Member.Takes member) ms s₁ s')
      (by
        rintro _ ⟨key, -, rfl⟩
        exact (hmember key).congr fun s' => by simp) fun _ _ => trivial) fun s' => ?_
    rw [Through.cons_iff]
    constructor
    · rintro ⟨s₁, ⟨key, hkey, hread⟩, htail⟩
      refine ⟨some key, ⟨key, hkey, rfl⟩, ?_⟩
      rintro _ ⟨⟩
      exact ⟨s₁, hread, htail⟩
    · rintro ⟨_, ⟨key, hkey, rfl⟩, h⟩
      obtain ⟨s₁, hread, htail⟩ := h key rfl
      exact ⟨s₁, ⟨key, hkey, hread⟩, htail⟩

theorem means_allMembers (hms : ∀ m ∈ ms, m.Stands member) (hblank : IsGap blank) (s : σ) :
    Means (Begins '\x7d') (allMembers member s) (commas (ms.map Member.text) ++ blank)
      (Through (Member.Takes member) ms s) := by
  have hne : ∀ m ∈ ms, m.text ≠ [] := fun m _ => by simp [Member.text]
  have hlength := length_le_length_text hne [] blank true
  rw [commas_eq_listed]
  unfold allMembers
  refine Means.remaining_bind fun n hn => ?_
  exact means_members hms hblank isGap_nil true s (Nat.lt_succ_of_le (Nat.le_trans hlength hn))

end Objects

section Texts

variable {body : Nat → Reader α} {depth : Nat} {t : List Char} {G : α → Prop}

theorem Means.enclosed {close : Reader Unit} {x : Char} (hclose : Reads P close [x] ())
    (hbody : Means (Begins x) (body (depth + 1)) t G) :
    Means P (Json.bracketed (depth + 2) body close) (c :: (t ++ [x])) G := by
  have hend (a : α) : Means P (close >>= fun _ => Pure.pure a) [x] (· = a) :=
    .reads_map hclose (.pure a)
  have h := hbody.bind (fun a _ => hend a) fun rest _ => begins_cons x rest
  apply Means.bracketed
  exact h.congr fun a => ⟨fun ha => ⟨a, ha, rfl⟩, fun ⟨_, hb, heq⟩ => heq ▸ hb⟩

variable (body) in
theorem means_listText {items : List Item}
    (hbody : Means (Begins ']') (body (depth + 1)) (commas (items.map Item.text) ++ blank) G) :
    Means P (bracketed (depth + 2) body endList) (listText items blank) G := by
  unfold listText
  rw [← List.append_assoc]
  exact .enclosed .endList hbody

variable (body) in
theorem means_objectText {ms : List Member}
    (hbody : Means (Begins '\x7d') (body (depth + 1)) (commas (ms.map Member.text) ++ blank) G) :
    Means P (bracketed (depth + 2) body endObject) (objectText ms blank) G := by
  unfold objectText
  rw [← List.append_assoc]
  exact .enclosed .endObject hbody

end Texts

end Storefront.Json
