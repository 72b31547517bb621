import Mathlib.Data.List.Perm.Basic
import Storefront.Proofs.Json.Slots

/-! Values that are kept: of texts with members in another order, values with members in another order
are kept, and these are taken as the same. -/

namespace Storefront.Json

open Reader Format Record

variable {α : Type}

inductive Kept.Reordered : Kept → Kept → Prop
  | same (v : Kept) : Reordered v v
  | list {pairs : List (Kept × Kept)} (hvalues : ∀ p ∈ pairs, Reordered p.1 p.2) :
      Reordered (.list (pairs.map Prod.fst)) (.list (pairs.map Prod.snd))
  | object {pairs : List ((String × Kept) × String × Kept)} {es : List (String × Kept)}
      (hkeys : ∀ p ∈ pairs, p.1.1 = p.2.1) (hvalues : ∀ p ∈ pairs, Reordered p.1.2 p.2.2)
      (hperm : (pairs.map Prod.snd).Perm es) :
      Reordered (.object (pairs.map Prod.fst)) (.object es)

section Keeping

variable {value : Reader Kept} {m : Member} {ms : List Member} {items : List Item} {blank : List Char}
  {depth : Nat}

def Member.Keeps (value : Reader Kept) (m : Member) (e : String × Kept) : Prop :=
  Spelled m.key e.1.toList ∧ Reads Ends value m.item.value e.2

theorem means_keepMember (hskips : SkipsGaps value) (hm : m.Spaced) (hvalue : IsValue m.item.value)
    (hdecided : Decided Ends value m.item.value) (entries : List (String × Kept)) (key : String) :
    Means Ends (keepMember value entries key) m.rest fun es =>
      ∃ v, Reads Ends value m.item.value v ∧ es = (key, v) :: entries := by
  have hread := hskips.means hm.item.before hvalue.startsValue hdecided
  rw [m.rest_eq]
  unfold keepMember
  exact .reads_bind (reads_colon hm) (hread.map_pure fun v => (key, v) :: entries) fun _ _ => trivial

theorem through_keepMember {step : Member → List (String × Kept) → List (String × Kept) → Prop}
    (hstep : ∀ m ∈ ms, ∀ es es', step m es es' ↔ ∃ e, m.Keeps value e ∧ es' = e :: es)
    (es es' : List (String × Kept)) :
    Through step ms es es' ↔ ∃ kept, List.Forall₂ (Member.Keeps value) ms kept ∧ es' = kept.reverse ++ es := by
  induction ms generalizing es with
  | nil => simp [Through.nil_iff]
  | cons m ms ih =>
    rw [List.forall_mem_cons] at hstep
    simp only [Through.cons_iff, hstep.1, ih hstep.2, List.forall₂_cons_left_iff]
    constructor
    · rintro ⟨_, ⟨e, he, rfl⟩, kept, hkept, rfl⟩
      exact ⟨e :: kept, ⟨e, kept, he, hkept, rfl⟩, by simp⟩
    · rintro ⟨_, ⟨e, kept, he, hkept, rfl⟩, rfl⟩
      exact ⟨e :: es, ⟨e, he, rfl⟩, kept, hkept, by simp⟩

theorem skipsGaps_readKept (depth : Nat) : SkipsGaps (readKept (depth + 1)) :=
  (skipsGaps_peekValue _).positioned

theorem readKept_list (hitems : AreItems items) (hblank : IsGap blank)
    (hdecided : ∀ t, IsValue t → Decided Ends (readKept (depth + 1)) t) :
    Means Ends (readKept (depth + 2)) (listText items blank) fun v =>
      ∃ vs, List.Forall₂ (fun i v => Reads Ends (readKept (depth + 1)) i.value v) items vs ∧
        v = .list vs := by
  have hstand : ∀ i ∈ items, i.Stands (readKept (depth + 1)) :=
    fun i hi => ⟨(hitems i hi).1, (hitems i hi).2.startsValue, hdecided _ (hitems i hi).2⟩
  have hread := means_allElements hstand hblank isGap_nil true
  rw [List.nil_append, ← commas_eq_listed] at hread
  have hbody : Means (Begins ']') (do return Kept.list (← allElements (readKept (depth + 1)) true))
      (commas (items.map Item.text) ++ blank) _ := hread.map_pure Kept.list
  unfold readKept
  refine .positioned (.peekValue_token rfl ?_)
  rw [if_pos rfl, if_neg (Nat.succ_ne_zero depth)]
  exact means_listText (fun depth => do return Kept.list (← allElements (readKept depth) true)) hbody

theorem readKept_object (hms : AreMembers ms) (hblank : IsGap blank)
    (hdecided : ∀ t, IsValue t → Decided Ends (readKept (depth + 1)) t) :
    Means Ends (readKept (depth + 2)) (objectText ms blank) fun v =>
      ∃ es, List.Forall₂ (Member.Keeps (readKept (depth + 1))) ms es ∧ v = .object es := by
  have hmeans (m : Member) (hm : m ∈ ms) := means_keepMember (skipsGaps_readKept depth) (hms m hm).1
    (hms m hm).2 (hdecided _ (hms m hm).2)
  have hstand : ∀ m ∈ ms, m.Stands (keepMember (readKept (depth + 1))) :=
    fun m hm => ⟨(hms m hm).1, fun es key => (hmeans m hm es key).decided⟩
  have hstep : ∀ m ∈ ms, ∀ es es', m.Takes (keepMember (readKept (depth + 1))) es es' ↔
      ∃ e, m.Keeps (readKept (depth + 1)) e ∧ es' = e :: es := by
    intro m hm es es'
    unfold Member.Takes
    simp only [(hmeans m hm es _).iff ends_nil]
    exact ⟨fun ⟨key, hkey, v, hv, h⟩ => ⟨(key, v), ⟨hkey, hv⟩, h⟩,
      fun ⟨⟨key, v⟩, ⟨hkey, hv⟩, h⟩ => ⟨key, hkey, v, hv, h⟩⟩
  have hread := means_allMembers hstand hblank []
  have hbody : Means (Begins '\x7d')
      (do return Kept.object (← allMembers (keepMember (readKept (depth + 1))) []).reverse)
      (commas (ms.map Member.text) ++ blank) _ := hread.map_pure fun es => Kept.object es.reverse
  unfold readKept
  refine .positioned (.peekValue_token rfl ?_)
  rw [if_neg (by decide), if_pos rfl, if_neg (Nat.succ_ne_zero depth)]
  refine (means_objectText (fun depth =>
    do return Kept.object (← allMembers (keepMember (readKept depth)) []).reverse) hbody).congr ?_
  intro v
  simp only [through_keepMember hstep, List.append_nil]
  constructor
  · rintro ⟨es, hes, rfl⟩
    exact ⟨es.reverse, ⟨es, hes, rfl⟩, by simp⟩
  · rintro ⟨_, ⟨es, hes, rfl⟩, rfl⟩
    exact ⟨es, hes, by simp⟩

theorem readKept_token {t : List Char} (ht : IsToken t) (depth : Nat) :
    Decided Ends (readKept (depth + 1)) t := by
  obtain ⟨c, u, rfl, hfrom⟩ := ht.tokenFrom
  unfold readKept
  refine (Means.positioned (Decided.peekValue_token hfrom.opensToken.opens.1 ?_)).decided
  rw [if_neg hfrom.opensToken.list, if_neg hfrom.opensToken.object]
  exact hfrom.decided_plainValue

theorem refuses_readKept_bracket {t : List Char} {c : Char} (hc : c = '[' ∨ c = '\x7b') :
    Refuses Ends (readKept 1) (c :: t) := by
  have hmeans : Means Ends (readKept 1) (c :: t) fun _ => False := by
    unfold readKept
    obtain rfl | rfl := hc
    · exact .positioned (.peekValue_token rfl (.of_refuses (.failAhead _) fun _ => id))
    · exact .positioned (.peekValue_token rfl (.of_refuses (.failAhead _) fun _ => id))
  exact hmeans.refuses fun _ => id

theorem decided_readKept (depth : Nat) {t : List Char} (ht : IsValue t) : Decided Ends (readKept depth) t := by
  induction depth generalizing t with
  | zero => exact Refuses.decided (.failAhead _)
  | succ depth ih =>
    cases ht with
    | token ht => exact readKept_token ht depth
    | list hblank hitems hvalues =>
      cases depth with
      | zero => exact (refuses_readKept_bracket (.inl rfl)).decided
      | succ depth =>
        exact (readKept_list (fun i hi => ⟨hitems i hi, hvalues i hi⟩) hblank fun _ => ih).decided
    | object hblank hms hvalues =>
      cases depth with
      | zero => exact (refuses_readKept_bracket (.inr rfl)).decided
      | succ depth =>
        exact (readKept_object (fun m hm => ⟨hms m hm, hvalues m hm⟩) hblank fun _ => ih).decided

end Keeping

section Order

variable {depth : Nat} {t t' : List Char} {v : Kept}

theorem exists_pairs {β γ : Type} {R S : β → γ → Prop} {T : γ → γ → Prop} {xs : List β} {ys : List γ}
    (h : List.Forall₂ R xs ys) (hstep : ∀ x ∈ xs, ∀ y, R x y → ∃ y', S x y' ∧ T y y') :
    ∃ zs : List (γ × γ), zs.map Prod.fst = ys ∧ List.Forall₂ S xs (zs.map Prod.snd) ∧
      ∀ z ∈ zs, T z.1 z.2 := by
  induction h with
  | nil => exact ⟨[], rfl, .nil, by simp⟩
  | @cons x y xs ys hxy _ ih =>
    rw [List.forall_mem_cons] at hstep
    obtain ⟨y', hy', hT⟩ := hstep.1 y hxy
    obtain ⟨zs, rfl, hzs, hTs⟩ := ih hstep.2
    refine ⟨(y, y') :: zs, rfl, .cons hy' hzs, ?_⟩
    rw [List.forall_mem_cons]
    exact ⟨hT, hTs⟩

theorem exists_depth_of_reads {c : Char} (hc : c = '[' ∨ c = '\x7b')
    (hread : Reads Ends (readKept depth) (c :: t) v) : ∃ d, depth = d + 2 := by
  match depth with
  | 0 => exact absurd (.failAhead _) (hread.not_refuses ends_nil)
  | 1 => exact absurd (refuses_readKept_bracket hc) (hread.not_refuses ends_nil)
  | d + 2 => exact ⟨d, rfl⟩

theorem readKept_reordered (ht : Reordered t t') (hread : Reads Ends (readKept depth) t v) :
    ∃ v', Reads Ends (readKept depth) t' v' ∧ Kept.Reordered v v' := by
  -- Every level of brackets takes one of the depth, which is the same on both sides.
  induction ht generalizing depth v with
  | token ht => exact ⟨v, hread, .same v⟩
  | @list pairs blank blank' hblank hblank' hitems hvalues ih =>
    obtain ⟨d, rfl⟩ := exists_depth_of_reads (.inl rfl) hread
    obtain ⟨hfirst, hsecond⟩ := ItemsReordered.areItems hvalues hitems
    rw [(readKept_list hfirst hblank fun _ => decided_readKept _).iff ends_nil] at hread
    obtain ⟨vs, hvs, rfl⟩ := hread
    rw [List.forall₂_map_left_iff] at hvs
    obtain ⟨ws, rfl, hws, hsame⟩ := exists_pairs hvs fun p hp v hv => ih p hp hv
    refine ⟨_, (readKept_list hsecond hblank' fun _ => decided_readKept _).reads _ ⟨_, ?_, rfl⟩,
      .list hsame⟩
    rwa [List.forall₂_map_left_iff]
  | @object pairs ms blank blank' hblank hblank' hms hkeys hvalues hperm ih =>
    obtain ⟨d, rfl⟩ := exists_depth_of_reads (.inr rfl) hread
    have hpairs : MembersReordered pairs := fun p hp => ⟨hkeys p hp, hvalues p hp⟩
    obtain ⟨hfirst, hsecond⟩ := hpairs.areMembers hms hperm
    rw [(readKept_object hfirst hblank fun _ => decided_readKept _).iff ends_nil] at hread
    obtain ⟨es, hes, rfl⟩ := hread
    rw [List.forall₂_map_left_iff] at hes
    obtain ⟨ws, rfl, hws, hsame⟩ := exists_pairs (T := fun e e' => e.1 = e'.1 ∧ Kept.Reordered e.2 e'.2)
      (S := fun p e => Member.Keeps (readKept (d + 1)) p.2 e) hes fun p hp e he => by
        obtain ⟨v', hv', hsame⟩ := ih p hp he.2
        exact ⟨(e.1, v'), ⟨hkeys p hp ▸ he.1, hv'⟩, rfl, hsame⟩
    have hmapped : List.Forall₂ (Member.Keeps (readKept (d + 1))) (pairs.map Prod.snd)
        (ws.map Prod.snd) := by
      rwa [List.forall₂_map_left_iff]
    obtain ⟨es', hes', hentries⟩ := List.perm_comp_forall₂ hperm.symm hmapped
    exact ⟨_, (readKept_object hsecond hblank' fun _ => decided_readKept _).reads _ ⟨es', hes', rfl⟩,
      .object (fun p hp => (hsame p hp).1) (fun p hp => (hsame p hp).2) hentries.symm⟩

end Order

section Taking

variable {v v' : Kept} {a : α}

def Format.KeptBlind (f : Format α) : Prop :=
  ∀ v v' a, v.Reordered v' → f.ofKept v = .ok a → f.ofKept v' = .ok a

theorem keptBlind_scalar {f : Format α} (hlist : ∀ vs a, f.ofKept (.list vs) ≠ .ok a)
    (hobject : ∀ es a, f.ofKept (.object es) ≠ .ok a) : f.KeptBlind := by
  intro v v' a hv htake
  cases hv with
  | same => exact htake
  | list => exact absurd htake (hlist _ a)
  | object => exact absurd htake (hobject _ a)

theorem keptBlind_ofString (expected : String) (value : String → Except Cause α) (text : α → String) :
    (ofString expected value text).KeptBlind :=
  keptBlind_scalar (fun _ _ h => nomatch h) fun _ _ h => nomatch h

theorem keptBlind_uint32 : uint32.KeptBlind :=
  keptBlind_scalar (fun _ _ h => nomatch h) fun _ _ h => nomatch h

theorem keptBlind_bool : bool.KeptBlind :=
  keptBlind_scalar (fun _ _ h => nomatch h) fun _ _ h => nomatch h

variable {P : Type} {r : Record P α} {slots : List (Slot P)} {p p' : P}

theorem foldlM_iff_through {β σ ε : Type} {f : σ → β → Except ε σ} {xs : List β} {s s' : σ} :
    xs.foldlM f s = .ok s' ↔ Through (fun x s s' => f s x = .ok s') xs s s' := by
  induction xs generalizing s with
  | nil =>
    rw [Through.nil_iff, List.foldlM_nil]
    exact ⟨fun h => (Except.ok.inj h).symm, fun h => h ▸ rfl⟩
  | cons x xs ih =>
    rw [Through.cons_iff, List.foldlM_cons]
    cases hx : f s x with
    | error e => exact ⟨fun h => (nomatch h), fun ⟨_, h, _⟩ => nomatch h⟩
    | ok s₁ =>
      simp only [← ih, Except.ok.injEq, exists_eq_left']
      rfl

theorem Slot.ofKept_field (s : Slot P) (v : Kept) (p : P) :
    s.field.ofKept v p = .ok p' ↔ ∃ a, s.format.ofKept v = .ok a ∧ p' = s.set a p := by
  show (s.format.ofKept v >>= fun a => .ok (s.set a p)) = _ ↔ _
  cases s.format.ofKept v with
  | error e => exact ⟨fun h => (nomatch h), fun ⟨_, h, _⟩ => nomatch h⟩
  | ok a =>
    simp only [Except.ok.injEq, exists_eq_left']
    exact ⟨fun h => (Except.ok.inj h).symm, fun h => h ▸ rfl⟩

theorem keptMember_iff (h : r.Lawful slots) (e : String × Kept) :
    r.keptMember p e = .ok p' ↔ Slot.Takes slots e.1 (fun s a => s.format.ofKept e.2 = .ok a) p p' := by
  unfold keptMember
  rw [h.find?]
  cases hfind : slots.find? (·.name == e.1) with
  | none =>
    rw [Slot.takes_none_iff hfind]
    exact ⟨fun h => (Except.ok.inj h).symm, fun h => h ▸ rfl⟩
  | some s =>
    rw [Slot.takes_some_iff hfind]
    show (if (s.get p).isSome then _ else s.field.ofKept e.2 p) = _ ↔ _
    cases s.get p with
    | some b => exact ⟨fun h => (nomatch h), fun ⟨h, _⟩ => nomatch h⟩
    | none => simp [Slot.ofKept_field]

theorem keptItems_reordered {pairs : List (Kept × Kept)} (hvalues : ∀ p ∈ pairs, p.1.Reordered p.2)
    (hblind : ∀ s ∈ slots, s.format.KeptBlind) {n : Nat}
    (h : r.keptItems (pairs.map Prod.fst) (slots.map Slot.field) n p = .ok p') :
    r.keptItems (pairs.map Prod.snd) (slots.map Slot.field) n p = .ok p' := by
  induction slots generalizing n p with
  | nil =>
    simp only [List.map_nil, keptItems, List.length_map] at h ⊢
    exact h
  | cons s slots ih =>
    rw [List.forall_mem_cons] at hblind
    rw [List.map_cons, keptItems, List.getElem?_map] at h ⊢
    cases hn : pairs[n]? with
    | none =>
      rw [hn] at h
      exact h
    | some pair =>
      rw [hn] at h
      have hpair := hvalues pair (List.mem_of_getElem? hn)
      change (s.field.ofKept pair.1 p >>= r.keptItems _ (slots.map Slot.field) (n + 1)) = _ at h
      show (s.field.ofKept pair.2 p >>= r.keptItems _ (slots.map Slot.field) (n + 1)) = _
      cases htake : s.field.ofKept pair.1 p with
      | error e =>
        rw [htake] at h
        contradiction
      | ok p₁ =>
        obtain ⟨a, ha, hset⟩ := (s.ofKept_field pair.1 p).1 htake
        have hsecond := (s.ofKept_field pair.2 p).2 ⟨a, hblind.1 _ _ a hpair ha, hset⟩
        rw [htake] at h
        rw [hsecond]
        exact ih hblind.2 h

theorem through_keptMember_reordered {pairs : List ((String × Kept) × String × Kept)}
    {es : List (String × Kept)} (h : r.Lawful slots) (hblind : ∀ s ∈ slots, s.format.KeptBlind)
    (hkeys : ∀ p ∈ pairs, p.1.1 = p.2.1) (hvalues : ∀ p ∈ pairs, p.1.2.Reordered p.2.2)
    (hperm : (pairs.map Prod.snd).Perm es)
    (hthrough : Through (fun e p p' => r.keptMember p e = .ok p') (pairs.map Prod.fst) p p') :
    Through (fun e p p' => r.keptMember p e = .ok p') es p p' := by
  have hsecond : Through (fun e p p' => r.keptMember p e = .ok p') (pairs.map Prod.snd) p p' := by
    rw [Through.map_iff] at hthrough ⊢
    refine hthrough.mono fun pair hpair p p' htake => ?_
    rw [keptMember_iff h] at htake ⊢
    rw [← hkeys pair hpair]
    exact htake.mono fun s hs a => hblind s hs _ _ a (hvalues pair hpair)
  refine hsecond.perm (fun e e' p p₁ p₂ hfirst hsecond => ?_) hperm
  simp only [keptMember_iff h] at hfirst hsecond ⊢
  exact hfirst.swap h.slots hsecond

theorem keptBlind_record (h : r.Lawful slots) (hblind : ∀ s ∈ slots, s.format.KeptBlind) :
    r.format.KeptBlind := by
  intro v v' a hv htake
  cases hv with
  | same => exact htake
  | @list pairs hvalues =>
    change (r.keptItems (pairs.map Prod.fst) r.fields 0 r.blank >>= r.finish) = _ at htake
    show (r.keptItems (pairs.map Prod.snd) r.fields 0 r.blank >>= r.finish) = _
    cases hitems : r.keptItems (pairs.map Prod.fst) r.fields 0 r.blank with
    | error e =>
      rw [hitems] at htake
      contradiction
    | ok p =>
      rw [hitems] at htake
      rw [h.fields] at hitems ⊢
      rw [keptItems_reordered hvalues hblind hitems]
      exact htake
  | @object pairs es hkeys hvalues hperm =>
    change ((pairs.map Prod.fst).foldlM r.keptMember r.blank >>= r.finish) = _ at htake
    show (es.foldlM r.keptMember r.blank >>= r.finish) = _
    cases hentries : (pairs.map Prod.fst).foldlM r.keptMember r.blank with
    | error e =>
      rw [hentries] at htake
      contradiction
    | ok p =>
      rw [hentries] at htake
      rw [foldlM_iff_through] at hentries
      have hother := through_keptMember_reordered h hblind hkeys hvalues hperm hentries
      rw [foldlM_iff_through.2 hother]
      exact htake

end Taking

end Storefront.Json
