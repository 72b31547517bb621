import Mathlib.Data.List.Pairwise
import Mathlib.Tactic.MkIffOfInductiveProp
import Storefront.Json.Record
import Storefront.Proofs.Json.Blind

/-! Records: their members fill vacant fields one after the other, and any two of them do so in either
order. -/

namespace Storefront.Json

open Reader Format Record

variable {P α : Type}

structure Slot (P : Type) where
  Value : Type
  name : String
  format : Format Value
  get : P → Option Value
  set : Value → P → P

namespace Slot

def field (s : Slot P) : Field P :=
  .of s.name s.format s.get s.set

@[mk_iff]
structure Apart (s s' : Slot P) : Prop where
  set : ∀ a b p, s.set a (s'.set b p) = s'.set b (s.set a p)
  get : ∀ b p, s.get (s'.set b p) = s.get p
  get' : ∀ a p, s'.get (s.set a p) = s'.get p

instance : Std.Symm (Apart (P := P)) where
  symm _ _ h := ⟨fun a b p => (h.set b a p).symm, h.get', h.get⟩

/-- A member of this key fills its slot with a value that it gives, or it is passed over. -/
inductive Takes (slots : List (Slot P)) (key : String) (gives : (s : Slot P) → s.Value → Prop) :
    P → P → Prop
  | known {s : Slot P} {a : s.Value} {p : P} (hs : slots.find? (·.name == key) = some s)
      (hvacant : s.get p = none) (ha : gives s a) : Takes slots key gives p (s.set a p)
  | unknown {p : P} (hs : slots.find? (·.name == key) = none) : Takes slots key gives p p

/-- Slots that keep what is put into them, and are apart from each other. -/
structure AreLawful (slots : List (Slot P)) : Prop where
  filled : ∀ s ∈ slots, ∀ a p, s.get (s.set a p) = some a
  apart : slots.Pairwise Apart

variable {slots : List (Slot P)} {key key' : String} {gives gives' : (s : Slot P) → s.Value → Prop}
  {p p₁ p₂ : P}

theorem AreLawful.apart_of_mem (h : AreLawful slots) {s s' : Slot P} (hs : s ∈ slots) (hs' : s' ∈ slots)
    (hne : s ≠ s') : s.Apart s' :=
  h.apart.forall hs hs' hne

theorem takes_none_iff (hs : slots.find? (·.name == key) = none) :
    Takes slots key gives p p₁ ↔ p₁ = p := by
  constructor
  · intro h
    cases h with
    | known hs' => cases hs.symm.trans hs'
    | unknown => rfl
  · rintro rfl
    exact .unknown hs

theorem takes_some_iff {s : Slot P} (hs : slots.find? (·.name == key) = some s) :
    Takes slots key gives p p₁ ↔ s.get p = none ∧ ∃ a, gives s a ∧ p₁ = s.set a p := by
  constructor
  · intro h
    cases h with
    | known hs' hvacant ha =>
      obtain rfl := Option.some.inj (hs.symm.trans hs')
      exact ⟨hvacant, _, ha, rfl⟩
    | unknown hs' => cases hs.symm.trans hs'
  · rintro ⟨hvacant, a, ha, rfl⟩
    exact .known hs hvacant ha

theorem Takes.mono (h : Takes slots key gives p p₁) (hgives : ∀ s ∈ slots, ∀ a, gives s a → gives' s a) :
    Takes slots key gives' p p₁ := by
  cases h with
  | known hs hvacant ha => exact .known hs hvacant (hgives _ (List.mem_of_find?_eq_some hs) _ ha)
  | unknown hs => exact .unknown hs

theorem Takes.swap (hslots : AreLawful slots) (h : Takes slots key gives p p₁)
    (h' : Takes slots key' gives' p₁ p₂) :
    ∃ p₁', Takes slots key' gives' p p₁' ∧ Takes slots key gives p₁' p₂ := by
  cases h with
  | unknown hs => exact ⟨p₂, h', .unknown hs⟩
  | @known s a _ hs hvacant ha =>
    cases h' with
    | unknown hs' => exact ⟨p, .unknown hs', .known hs hvacant ha⟩
    | @known s' b _ hs' hvacant' hb =>
      have hmem := List.mem_of_find?_eq_some hs
      have hmem' := List.mem_of_find?_eq_some hs'
      have hne : s ≠ s' := by
        rintro rfl
        rw [hslots.filled s hmem] at hvacant'
        contradiction
      have hapart := hslots.apart_of_mem hmem hmem' hne
      refine ⟨s'.set b p, .known hs' ?_ hb, ?_⟩
      · rwa [hapart.get'] at hvacant'
      · rw [← hapart.set]
        refine .known hs ?_ ha
        rwa [hapart.get]

end Slot

section Objects

variable {r : Record P α} {slots : List (Slot P)} {depth : Nat} {m : Member} {ms : List Member} {p p' : P}

structure Record.Lawful (r : Record P α) (slots : List (Slot P)) : Prop where
  fields : r.fields = slots.map Slot.field
  blind : ∀ s ∈ slots, s.format.Blind
  slots : Slot.AreLawful slots

theorem Record.Lawful.find? (h : r.Lawful slots) (key : String) :
    r.fields.find? (·.name == key) = (slots.find? (·.name == key)).map Slot.field := by
  rw [h.fields, List.find?_map]
  rfl

theorem reads_colon (hm : m.Spaced) : Reads (fun _ => True) colon (m.gap ++ [':']) () :=
  .colon hm.gap

theorem Member.rest_eq (m : Member) : m.rest = (m.gap ++ [':']) ++ (m.item.before ++ m.item.value) := by
  simp [Member.rest]

theorem means_readMember (h : r.Lawful slots) (hm : m.Spaced) (hvalue : IsValue m.item.value)
    (depth : Nat) (p : P) (key : String) :
    Means Ends (r.readMember depth p key) m.rest
      (Slot.Takes slots key (fun s a => Reads Ends (s.format.read depth) m.item.value a) p) := by
  rw [m.rest_eq]
  unfold readMember
  rw [h.find?]
  cases hfind : slots.find? (·.name == key) with
  | none =>
    have hskip := reads_skipValue hm.item.before hvalue
    refine Means.congr ?_ fun p' => Slot.takes_none_iff hfind
    exact .reads_bind (reads_colon hm) (.reads_map hskip (.pure p)) fun _ _ => trivial
  | some s =>
    refine Means.congr ?_ fun p' => Slot.takes_some_iff hfind
    show Means Ends (if (s.get p).isSome then fail (.duplicateField key)
      else colon >>= fun _ => s.format.read depth >>= fun a => pure (s.set a p)) _ _
    cases hget : s.get p with
    | some b => exact .of_refuses (.fail _) fun p' h => nomatch h.1
    | none =>
      have hblind := h.blind s (List.mem_of_find?_eq_some hfind)
      have hread := (hblind.skips depth).means hm.item.before hvalue.startsValue
        (hblind.decided depth _ hvalue)
      have htail := Means.map_pure (fun a => s.set a p) hread
      refine (Means.reads_bind (reads_colon hm) htail fun _ _ => trivial).congr fun p' => ?_
      simp

def Member.Fills (slots : List (Slot P)) (depth : Nat) (m : Member) (p p' : P) : Prop :=
  ∃ key : String, Spelled m.key key.toList ∧
    Slot.Takes slots key (fun s a => Reads Ends (s.format.read depth) m.item.value a) p p'

theorem means_recordMembers (h : r.Lawful slots) (hms : AreMembers ms) {blank : List Char}
    (hblank : IsGap blank) (depth : Nat) (p : P) :
    Means (Begins '\x7d') (allMembers (r.readMember depth) p) (commas (ms.map Member.text) ++ blank)
      (Through (Member.Fills slots depth) ms p) := by
  have hmeans (m : Member) (hm : m ∈ ms) (p : P) (key : String) :=
    means_readMember h (hms m hm).1 (hms m hm).2 depth p key
  have hstand : ∀ m ∈ ms, m.Stands (r.readMember depth) :=
    fun m hm => ⟨(hms m hm).1, fun p key => (hmeans m hm p key).decided⟩
  have htakes (m : Member) (hm : m ∈ ms) (p p' : P) :
      m.Takes (r.readMember depth) p p' ↔ m.Fills slots depth p p' :=
    exists_congr fun key => and_congr_right fun _ => (hmeans m hm p key).iff ends_nil
  refine (means_allMembers hstand hblank p).congr fun p' => ?_
  exact ⟨fun h => h.mono fun m hm p p' => (htakes m hm p p').2,
    fun h => h.mono fun m hm p p' => (htakes m hm p p').1⟩

theorem Through.fills_reordered {pairs : List (Member × Member)} (h : r.Lawful slots)
    (hpairs : MembersReordered pairs) (hperm : (pairs.map Prod.snd).Perm ms)
    (hfills : Through (Member.Fills slots depth) (pairs.map Prod.fst) p p') :
    Through (Member.Fills slots depth) ms p p' := by
  have hvalues : Through (Member.Fills slots depth) (pairs.map Prod.snd) p p' := by
    rw [Through.map_iff] at hfills ⊢
    refine hfills.mono fun pair hpair p p' hfill => ?_
    obtain ⟨key, hkey, htakes⟩ := hfill
    obtain ⟨hkeys, hvalue⟩ := hpairs pair hpair
    exact ⟨key, hkeys ▸ hkey, htakes.mono fun s hs a => (h.blind s hs).reordered _ _ _ a hvalue⟩
  refine hvalues.perm (fun m m' p p₁ p₂ hfirst hsecond => ?_) hperm
  obtain ⟨key, hkey, htakes⟩ := hfirst
  obtain ⟨key', hkey', htakes'⟩ := hsecond
  obtain ⟨p₁', hfirst, hsecond⟩ := htakes.swap h.slots htakes'
  exact ⟨p₁', ⟨key', hkey', hfirst⟩, key, hkey, hsecond⟩

end Objects

section Lists

variable {r : Record P α} {slots : List (Slot P)} {depth : Nat} {items : List Item} {p p' : P}

inductive Slot.Listed (lenient : Bool) (depth : Nat) : List (Slot P) → List Item → P → P → Prop
  | full (p : P) : Listed lenient depth [] [] p p
  | early {s : Slot P} {slots : List (Slot P)} (hlenient : lenient = true) (p : P) :
      Listed lenient depth (s :: slots) [] p p
  | cons {s : Slot P} {slots : List (Slot P)} {i : Item} {items : List Item} {p p' : P} {a : s.Value}
      (ha : Reads Ends (s.format.read depth) i.value a)
      (h : Listed lenient depth slots items (s.set a p) p') :
      Listed lenient depth (s :: slots) (i :: items) p p'

def listEnd (r : Record P α) (p : P) : Reader α := do
  let a ← ofExcept (r.finish p)
  endList
  return a

theorem means_listEnd {gap : List Char} (hgap : IsGap gap) (p : P) :
    Means Ends (listEnd r p) (gap ++ [']']) (r.finish p = .ok ·) := by
  have hend (a : α) : Means Ends (endList >>= fun _ => pure a) (gap ++ [']']) (· = a) :=
    .reads_map (Reads.endList_gap hgap) (.pure a)
  have h := (Means.ofExcept (P := fun _ => True) (r.finish p)).bind (fun a _ => hend a)
    fun _ _ => trivial
  exact h.congr fun a => by simp

theorem Refuses.peekToken_bind {Q : List Char → Prop} {f : Option Char → Reader α} {t : List Char}
    (h : ∀ next t, Refuses (fun _ => True) (f next) t) : Refuses Q (peekToken >>= f) t := by
  intro rest p _
  have hnext := h ((t ++ rest).dropWhile isSpace).head? ((t ++ rest).dropWhile isSpace) []
    (((t ++ rest).takeWhile isSpace).foldl Cursor.moved p) trivial
  rw [List.append_nil] at hnext
  exact hnext

theorem refuses_endList {Q : List Char → Prop} {gap t : List Char} {c : Char} (hgap : IsGap gap)
    (hc : isSpace c = false) (hne : c ≠ ']') : Refuses Q endList (gap ++ c :: t) := by
  let trailing (next : Option Char) : Reader Unit :=
    if next = some ']' then failAhead .trailingComma else failAhead .trailingCharacters
  have htrailing (next : Option Char) (t : List Char) : Refuses (fun _ => True) (trailing next) t := by
    by_cases h : next = some ']'
    · simp only [trailing, if_pos h]
      exact .failAhead _
    · simp only [trailing, if_neg h]
      exact .failAhead _
  have hcomma (t : List Char) : Refuses Q (eat >>= fun _ => peekToken >>= trailing) (',' :: t) := by
    have heat : Reads (fun _ => True) eat [','] () := .eat ','
    exact .reads_bind heat (.peekToken_bind htrailing) fun _ _ => trivial
  have hmeans : Means Q endList (gap ++ c :: t) fun _ => False := by
    unfold endList
    apply Means.token_bind hgap hc
    split
    next h => exact absurd (Option.some.inj h) hne
    next h =>
      obtain rfl := Option.some.inj h
      exact .of_refuses (hcomma t) fun _ => id
    next => exact .of_refuses (.failAhead _) fun _ => id
    next => exact .of_refuses (.failAhead _) fun _ => id
  exact hmeans.refuses fun _ => id

theorem refuses_listEnd {gap t : List Char} {c : Char} (hgap : IsGap gap) (hc : isSpace c = false)
    (hne : c ≠ ']') (p : P) : Refuses Ends (listEnd r p) (gap ++ c :: t) := by
  have hend (a : α) : Refuses Ends (endList >>= fun _ => pure a) ((gap ++ c :: t) ++ []) :=
    (refuses_endList hgap hc hne).bind fun _ hrest => hrest
  rw [List.append_nil] at hend
  have h := (Means.ofExcept (P := fun _ => True) (r.finish p)).bind (K := fun _ _ => False)
    (fun a _ => .of_refuses (hend a) fun _ => id) fun _ _ => trivial
  exact h.refuses fun a ha => ha.choose_spec.2

theorem Slot.listed_nil_iff {lenient : Bool} : Listed lenient depth [] items p p' ↔ items = [] ∧ p' = p := by
  constructor
  · intro h
    cases h
    exact ⟨rfl, rfl⟩
  · rintro ⟨rfl, rfl⟩
    exact .full p'

theorem Slot.listed_early_iff {lenient : Bool} {s : Slot P} :
    Listed lenient depth (s :: slots) [] p p' ↔ lenient = true ∧ p' = p := by
  constructor
  · intro h
    cases h with
    | early hlenient => exact ⟨hlenient, rfl⟩
  · rintro ⟨hlenient, rfl⟩
    exact .early hlenient p'

theorem Slot.listed_cons_iff {lenient : Bool} {s : Slot P} {i : Item} :
    Listed lenient depth (s :: slots) (i :: items) p p' ↔
      ∃ a, Reads Ends (s.format.read depth) i.value a ∧ Listed lenient depth slots items (s.set a p) p' := by
  constructor
  · intro h
    cases h with
    | cons ha h => exact ⟨_, ha, h⟩
  · rintro ⟨a, ha, h⟩
    exact .cons ha h

theorem readItems_cons_bind (s : Slot P) (slots : List (Slot P)) (depth n : Nat) (p : P) :
    r.readItems depth ((s :: slots).map Slot.field) n p >>= listEnd r =
      nextElement (n == 0) >>= fun next =>
        if next then s.format.read depth >>= fun a =>
          r.readItems depth (slots.map Slot.field) (n + 1) (s.set a p) >>= listEnd r
        else if r.lenient then listEnd r p
        else fail (r.tooShort n) := by
  rw [List.map_cons, Record.readItems, Reader.bind_assoc]
  congr 1
  funext next
  cases next with
  | true =>
    show ((s.format.read depth >>= fun a => pure (s.set a p)) >>= fun p =>
      r.readItems depth (slots.map Slot.field) (n + 1) p) >>= listEnd r = _
    rw [Reader.bind_assoc, Reader.bind_assoc]
    rfl
  | false =>
    rw [if_neg Bool.false_ne_true, if_neg Bool.false_ne_true]
    split
    · rfl
    · rfl

theorem refuses_listEnd_item {i : Item} {gap t : List Char} (hi : i.Spaced) (hvalue : IsValue i.value)
    (hgap : IsGap gap) (first : Bool) (p : P) :
    Refuses Ends (listEnd r p) (gap ++ (lead first ++ (i.text ++ t))) := by
  cases first with
  | false => exact refuses_listEnd hgap rfl (by decide) p
  | true =>
    obtain ⟨c, u, htext, hc⟩ := hvalue.startsValue
    have h : Refuses Ends (listEnd r p) ((gap ++ i.before) ++ c :: (u ++ (i.after ++ t))) :=
      refuses_listEnd (hgap.append hi.before) hc.1 hc.2.1 p
    simpa [lead, Item.text, htext] using h

theorem means_readItems (hblind : ∀ s ∈ slots, s.format.Blind) (hitems : AreItems items)
    {gap blank : List Char} (hblank : IsGap blank) (hgap : IsGap gap) (depth n : Nat) (p : P) :
    Means Ends (r.readItems depth (slots.map Slot.field) n p >>= listEnd r)
      (gap ++ (listed (n == 0) (items.map Item.text) ++ (blank ++ [']'])))
      fun a => ∃ p', Slot.Listed r.lenient depth slots items p p' ∧ r.finish p' = .ok a := by
  have hnone (gap : List Char) (n : Nat) : gap ++ (listed (n == 0) ([].map Item.text) ++
      (blank ++ [']'])) = (gap ++ blank) ++ [']'] := by
    show gap ++ (blank ++ [']']) = _
    rw [List.append_assoc]
  induction slots generalizing items gap n p with
  | nil =>
    show Means Ends (listEnd r p) _ _
    cases items with
    | nil =>
      rw [hnone]
      refine (means_listEnd (hgap.append hblank) p).congr fun a => ?_
      simp [Slot.listed_nil_iff]
    | cons i items =>
      obtain ⟨hspaced, hvalue⟩ := hitems i (List.mem_cons_self ..)
      have hrefuses := refuses_listEnd_item (r := r) hspaced hvalue hgap (n == 0) p
        (t := listed false (items.map Item.text) ++ (blank ++ [']']))
      refine .of_refuses (by simpa [listed] using hrefuses) ?_
      rintro a ⟨p', h, -⟩
      exact absurd (Slot.listed_nil_iff.1 h).1 (List.cons_ne_nil _ _)
  | cons s slots ih =>
    rw [readItems_cons_bind]
    cases items with
    | nil =>
      rw [hnone]
      refine .reads_bind (reads_nextElement_end (hgap.append hblank) (n == 0)) ?_
        fun rest _ => begins_cons ']' rest
      rw [if_neg Bool.false_ne_true]
      split
      next hlenient =>
        refine (means_listEnd isGap_nil p).congr fun a => ?_
        simp [Slot.listed_early_iff, hlenient]
      next hstrict =>
        refine .of_refuses (.fail _) ?_
        rintro a ⟨p', h, -⟩
        exact hstrict (Slot.listed_early_iff.1 h).1
    | cons i items =>
      rw [List.forall_mem_cons] at hblind
      have hi := hitems.stand hblind.1 depth i (List.mem_cons_self ..)
      have hrest (a : s.Value) := ih hblind.2 (List.forall_mem_cons.1 hitems).2 hi.spaced.after (n + 1)
        (s.set a p)
      refine (Means.nextElement_bind hi hgap (n == 0) rfl hrest fun rest _ =>
        ends_entries (f := .list) hi.spaced.after hblank _ rest).congr fun a' => ?_
      simp only [Slot.listed_cons_iff]
      constructor
      · rintro ⟨p', ⟨a, ha, h⟩, hfinish⟩
        exact ⟨a, ha, p', h, hfinish⟩
      · rintro ⟨a, ha, p', h, hfinish⟩
        exact ⟨p', ⟨a, ha, h⟩, hfinish⟩

end Lists

section Records

variable {r : Record P α} {slots : List (Slot P)}

def SequenceOf (r : Record P α) (slots : List (Slot P)) (depth : Nat) (items : List Item) (a : α) : Prop :=
  ∃ d, depth = d + 2 ∧
    ∃ p, Slot.Listed r.lenient (d + 1) slots items r.blank p ∧ r.finish p = .ok a

def ObjectOf (r : Record P α) (slots : List (Slot P)) (depth : Nat) (ms : List Member) (a : α) : Prop :=
  ∃ d, depth = d + 2 ∧ ∃ p, Through (Member.Fills slots (d + 1)) ms r.blank p ∧ r.finish p = .ok a

theorem readBody_list (r : Record P α) (depth : Nat) :
    (r.readBody '[' depth >>= fun a => endList >>= fun _ => pure a) =
      r.readItems depth r.fields 0 r.blank >>= listEnd r := by
  show (r.readItems depth r.fields 0 r.blank >>= fun p => ofExcept (r.finish p)) >>= _ = _
  rw [Reader.bind_assoc]
  rfl

theorem reading_record (h : r.Lawful slots) :
    r.format.Reading (SequenceOf r slots) (ObjectOf r slots) where
  skips _ := skipsGaps_peekValue _
  token depth t ht := by
    obtain ⟨c, u, rfl, hfrom⟩ := ht.tokenFrom
    apply Decided.peekValue_token hfrom.opensToken.opens.1
    rw [if_neg hfrom.opensToken.list, if_neg hfrom.opensToken.object]
    exact decided_wrongKind r.name c
  list depth items blank hblank hitems := by
    refine .peekValue_token rfl (.positioned (.of_depth fun d => ?_))
    apply Means.bracketed
    rw [readBody_list, h.fields, commas_eq_listed]
    exact means_readItems h.blind hitems hblank isGap_nil (d + 1) 0 r.blank
  object depth ms blank hblank hms := by
    refine .peekValue_token rfl (.positioned (.of_depth fun d => ?_))
    have hmembers := means_recordMembers h hms hblank (d + 1) r.blank
    exact means_objectText _ (hmembers.map fun p _ => .ofExcept (r.finish p))

theorem Slot.Listed.reordered {lenient : Bool} {depth : Nat} {pairs : List (Item × Item)} {p p' : P}
    (hblind : ∀ s ∈ slots, s.format.Blind) (hpairs : ItemsReordered pairs)
    (h : Listed lenient depth slots (pairs.map Prod.fst) p p') :
    Listed lenient depth slots (pairs.map Prod.snd) p p' := by
  induction slots generalizing pairs p with
  | nil =>
    obtain ⟨hnil, rfl⟩ := listed_nil_iff.1 h
    obtain rfl := List.map_eq_nil_iff.1 hnil
    exact h
  | cons s slots ih =>
    cases pairs with
    | nil => exact h
    | cons pair pairs =>
      rw [List.forall_mem_cons] at hblind
      obtain ⟨hpair, hpairs⟩ := List.forall_mem_cons.1 hpairs
      obtain ⟨a, ha, h⟩ := listed_cons_iff.1 h
      exact .cons (hblind.1.reordered _ _ _ a hpair ha) (ih hblind.2 hpairs h)

theorem blind_record (h : r.Lawful slots) : r.format.Blind := by
  refine (reading_record h).blind ?_ ?_
  · rintro depth pairs a hpairs ⟨d, rfl, p, hlisted, hfinish⟩
    exact ⟨d, rfl, p, hlisted.reordered h.blind hpairs, hfinish⟩
  · rintro depth pairs ms a hpairs hperm ⟨d, rfl, p, hfills, hfinish⟩
    exact ⟨d, rfl, p, hfills.fills_reordered h hpairs hperm, hfinish⟩

end Records

end Storefront.Json
