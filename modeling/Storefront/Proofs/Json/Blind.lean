import Storefront.Proofs.Json.Brackets

/-! Formats that do not see in which order the members of an object stand, and of these the ones of
single values and of lists. -/

namespace Storefront.Json

open Reader Format

variable {α β : Type}

def SkipsGaps (r : Reader α) : Prop :=
  ∀ gap c u p, IsGap gap → isSpace c = false → ∃ q, r ⟨gap ++ c :: u, p⟩ = r ⟨c :: u, q⟩

theorem peekValue_apply {c : Char} (hc : isSpace c = false) (u : List Char) (p : Position) :
    peekValue ⟨c :: u, p⟩ = (.ok c, ⟨c :: u, p⟩) := by
  have hdrop : (c :: u).dropWhile isSpace = c :: u := List.dropWhile_cons_of_neg (by simp [hc])
  have htake : (c :: u).takeWhile isSpace = [] := List.takeWhile_cons_of_neg (by simp [hc])
  have htoken : peekToken ⟨c :: u, p⟩ = (.ok (some c), ⟨c :: u, p⟩) := by
    show (Except.ok ((c :: u).dropWhile isSpace).head?,
      (⟨(c :: u).dropWhile isSpace, ((c :: u).takeWhile isSpace).foldl _ p⟩ : Cursor)) = _
    rw [hdrop, htake]
    rfl
  unfold peekValue
  rw [Reader.bind_apply, htoken]
  rfl

theorem skipsGaps_peekValue (f : Char → Reader α) : SkipsGaps (peekValue >>= f) := by
  intro gap c u p hgap hc
  have hvalue : Reads (Begins c) peekValue gap c := (Reads.peekToken_gap hgap hc).map (.pure c)
  obtain ⟨q, hq⟩ := hvalue (c :: u) p rfl
  exact ⟨q, by rw [Reader.bind_apply, Reader.bind_apply, hq, peekValue_apply hc]⟩

theorem SkipsGaps.bind {r : Reader α} (h : SkipsGaps r) (f : α → Reader β) : SkipsGaps (r >>= f) := by
  intro gap c u p hgap hc
  obtain ⟨q, hq⟩ := h gap c u p hgap hc
  exact ⟨q, by rw [Reader.bind_apply, Reader.bind_apply, hq]⟩

theorem SkipsGaps.positioned {r : Reader α} (h : SkipsGaps r) : SkipsGaps (positioned r) := by
  intro gap c u p hgap hc
  obtain ⟨q, hq⟩ := h gap c u p hgap hc
  exact ⟨q, by rw [Reader.positioned, Reader.positioned, hq]⟩

theorem SkipsGaps.means {r : Reader α} {P : List Char → Prop} {gap t : List Char} {G : α → Prop}
    (hr : SkipsGaps r) (hgap : IsGap gap) (ht : StartsValue t) (h : Means P r t G) :
    Means P r (gap ++ t) G := by
  obtain ⟨c, u, rfl, hc, -⟩ := ht
  constructor
  · intro a ha rest p hrest
    obtain ⟨q, hq⟩ := hr gap c (u ++ rest) p hgap hc
    obtain ⟨q', hq'⟩ := h.reads a ha rest q hrest
    refine ⟨q', ?_⟩
    rw [List.append_assoc, ← hq']
    exact hq
  · intro hnone rest p hrest
    obtain ⟨q, hq⟩ := hr gap c (u ++ rest) p hgap hc
    obtain ⟨e, c', he⟩ := h.refuses hnone rest q hrest
    refine ⟨e, c', ?_⟩
    rw [List.append_assoc, ← he]
    exact hq

def AreItems (items : List Item) : Prop :=
  ∀ i ∈ items, i.Spaced ∧ IsValue i.value

def AreMembers (ms : List Member) : Prop :=
  ∀ m ∈ ms, m.Spaced ∧ IsValue m.item.value

def ItemsReordered (pairs : List (Item × Item)) : Prop :=
  ∀ p ∈ pairs, Reordered p.1.value p.2.value

def MembersReordered (pairs : List (Member × Member)) : Prop :=
  ∀ p ∈ pairs, p.1.key = p.2.key ∧ Reordered p.1.item.value p.2.item.value

theorem ItemsReordered.areItems {pairs : List (Item × Item)} (hpairs : ItemsReordered pairs)
    (hspaced : ∀ p ∈ pairs, p.1.Spaced ∧ p.2.Spaced) :
    AreItems (pairs.map Prod.fst) ∧ AreItems (pairs.map Prod.snd) := by
  constructor
  · simpa [AreItems] using fun i j hp => ⟨(hspaced (i, j) hp).1, (hpairs (i, j) hp).isValue.1⟩
  · simpa [AreItems] using fun j i hp => ⟨(hspaced (i, j) hp).2, (hpairs (i, j) hp).isValue.2⟩

theorem MembersReordered.areMembers {pairs : List (Member × Member)} {ms : List Member}
    (hpairs : MembersReordered pairs) (hspaced : ∀ p ∈ pairs, p.1.Spaced ∧ p.2.Spaced)
    (hperm : (pairs.map Prod.snd).Perm ms) : AreMembers (pairs.map Prod.fst) ∧ AreMembers ms := by
  constructor
  · simpa [AreMembers] using fun i j hp => ⟨(hspaced (i, j) hp).1, (hpairs (i, j) hp).2.isValue.1⟩
  · intro m hm
    obtain ⟨p, hp, rfl⟩ := List.mem_map.1 (hperm.mem_iff.2 hm)
    exact ⟨(hspaced p hp).2, (hpairs p hp).2.isValue.2⟩

namespace Format

/-- The readers of the format, at any depth, do not see in which order the members of an object stand,
or what comes after a value. -/
structure Blind (f : Format α) : Prop where
  skips : ∀ depth, SkipsGaps (f.read depth)
  decided : ∀ depth t, IsValue t → Decided Ends (f.read depth) t
  reordered : ∀ depth t t' a, Reordered t t' → Reads Ends (f.read depth) t a →
    Reads Ends (f.read depth) t' a

/-- What the format reads from lists of these items, and from objects of these members. -/
structure Reading (f : Format α) (L : Nat → List Item → α → Prop) (O : Nat → List Member → α → Prop) :
    Prop where
  skips : ∀ depth, SkipsGaps (f.read depth)
  token : ∀ depth t, IsToken t → Decided Ends (f.read depth) t
  list : ∀ depth items blank, IsGap blank → AreItems items →
    Means Ends (f.read depth) (listText items blank) (L depth items)
  object : ∀ depth ms blank, IsGap blank → AreMembers ms →
    Means Ends (f.read depth) (objectText ms blank) (O depth ms)

variable {f : Format α} {L : Nat → List Item → α → Prop} {O : Nat → List Member → α → Prop}

theorem Reading.blind (h : f.Reading L O)
    (hL : ∀ depth pairs a, ItemsReordered pairs → L depth (pairs.map Prod.fst) a →
      L depth (pairs.map Prod.snd) a)
    (hO : ∀ depth pairs ms a, MembersReordered pairs → (pairs.map Prod.snd).Perm ms →
      O depth (pairs.map Prod.fst) a → O depth ms a) : f.Blind where
  skips := h.skips
  decided depth t ht := by
    cases ht with
    | token ht => exact h.token depth _ ht
    | @list items blank hblank hitems hvalues =>
      exact (h.list depth items blank hblank fun i hi => ⟨hitems i hi, hvalues i hi⟩).decided
    | @object ms blank hblank hms hvalues =>
      exact (h.object depth ms blank hblank fun m hm => ⟨hms m hm, hvalues m hm⟩).decided
  reordered depth t t' a ht hread := by
    cases ht with
    | token => exact hread
    | @list pairs blank blank' hblank hblank' hitems hvalues =>
      obtain ⟨hfirst, hsecond⟩ := ItemsReordered.areItems hvalues hitems
      rw [(h.list depth _ _ hblank hfirst).iff ends_nil] at hread
      exact (h.list depth _ _ hblank' hsecond).reads a (hL depth pairs a hvalues hread)
    | @object pairs ms blank blank' hblank hblank' hms hkeys hvalues hperm =>
      have hpairs : MembersReordered pairs := fun p hp => ⟨hkeys p hp, hvalues p hp⟩
      obtain ⟨hfirst, hsecond⟩ := hpairs.areMembers hms hperm
      rw [(h.object depth _ _ hblank hfirst).iff ends_nil] at hread
      exact (h.object depth _ _ hblank' hsecond).reads a (hO depth pairs ms a hpairs hperm hread)

end Format

section Scalars

variable {f : Format α} {g : Char → Reader α}

theorem Means.peekValue_token {c : Char} {t : List Char} {G : α → Prop} {P : List Char → Prop}
    (hc : isSpace c = false) (h : Means P (g c) (c :: t) G) : Means P (peekValue >>= g) (c :: t) G :=
  .peekValue_bind isGap_nil hc h

theorem Decided.peekValue_token {c : Char} {t : List Char} {P : List Char → Prop}
    (hc : isSpace c = false) (h : Decided P (g c) (c :: t)) : Decided P (peekValue >>= g) (c :: t) :=
  (Means.peekValue_token hc h).decided

theorem blind_scalar (hread : ∀ depth, f.read depth = peekValue >>= g)
    (htoken : ∀ c u, TokenFrom c u → Decided Ends (g c) (c :: u))
    (hlist : ∀ t, Refuses Ends (g '[') t) (hobject : ∀ t, Refuses Ends (g '\x7b') t) : f.Blind := by
  have hreading : f.Reading (fun _ _ _ => False) fun _ _ _ => False := by
    constructor
    · intro depth
      rw [hread]
      exact skipsGaps_peekValue g
    · intro depth t ht
      obtain ⟨c, u, rfl, hfrom⟩ := ht.tokenFrom
      rw [hread]
      exact .peekValue_token hfrom.opensToken.opens.1 (htoken c u hfrom)
    · intro depth items blank _ _
      rw [hread]
      exact .peekValue_token rfl (.of_refuses (hlist _) fun _ => id)
    · intro depth ms blank _ _
      rw [hread]
      exact .peekValue_token rfl (.of_refuses (hobject _) fun _ => id)
  exact hreading.blind (fun _ _ _ _ => id) fun _ _ _ _ _ _ => id

theorem means_quoted {value : String → Except Cause α} {body : List Char} (hbody : IsStringBody body) :
    Means Ends (positioned do
      eat
      ofExcept (value (← stringBody))) ('"' :: (body ++ ['"']))
      fun a => ∃ s, Spelled body s.toList ∧ value s = .ok a :=
  .positioned (.eat_bind ((means_stringBody hbody).map
    (K := fun s a => value s = .ok a) fun s _ => .ofExcept (value s)))

theorem means_readString {expected : String} {value : String → Except Cause α} {body : List Char}
    (hbody : IsStringBody body) :
    Means Ends (readString expected value) ('"' :: (body ++ ['"']))
      fun a => ∃ s, Spelled body s.toList ∧ value s = .ok a := by
  unfold readString
  exact .peekValue_token rfl (means_quoted hbody)

variable {c : Char} {u : List Char}

theorem decided_wrongKind (expected : String) (c : Char) :
    Decided Ends (wrongKind expected c : Reader α) u :=
  (Refuses.wrongKind expected c).decided

theorem TokenFrom.ne_quote (hc : c = '-' ∨ c.isDigit = Bool.true) : c ≠ '"' :=
  TokenFrom.ne_of_number hc rfl (by decide)

theorem blind_ofString (expected : String) (value : String → Except Cause α) (text : α → String) :
    (ofString expected value text).Blind := by
  refine blind_scalar (fun _ => rfl) (fun c u h => ?_) (fun t => .wrongKind _ _) fun t => .wrongKind _ _
  cases h with
  | string hbody => exact (means_quoted hbody).decided
  | null | true | false => exact decided_wrongKind expected _
  | number hc =>
    rw [if_neg (TokenFrom.ne_quote hc)]
    exact decided_wrongKind expected _

theorem blind_string : string.Blind := blind_ofString _ _ _

theorem blind_path : path.Blind := blind_ofString _ _ _

theorem blind_timestamp : timestamp.Blind := blind_ofString _ _ _

theorem blind_uint32 : uint32.Blind := by
  refine blind_scalar (fun _ => rfl) (fun c u h => ?_) (fun t => .wrongKind _ _) fun t => .wrongKind _ _
  cases h with
  | number hc h =>
    rw [if_pos hc]
    exact (Means.positioned ((decided_number h).map (K := fun n a => uint32Of n = .ok a)
      fun n _ => .ofExcept (uint32Of n))).decided
  | null | true | false | string => exact decided_wrongKind "u32" _

theorem blind_bool : bool.Blind := by
  refine blind_scalar (fun _ => rfl) (fun c u h => ?_) (fun t => ?_) fun t => ?_
  · cases h with
    | number hc h =>
      rw [if_neg (TokenFrom.ne_of_number hc rfl (by decide)),
        if_neg (TokenFrom.ne_of_number hc rfl (by decide))]
      exact decided_wrongKind "a boolean" _
    | true => exact (Reads.eat_bind ((Reads.word _).map (.pure Bool.true))).decided
    | false => exact (Reads.eat_bind ((Reads.word _).map (.pure Bool.false))).decided
    | null | string => exact decided_wrongKind "a boolean" _
  · exact Refuses.wrongKind "a boolean" '['
  · exact Refuses.wrongKind "a boolean" '\x7b'

theorem means_color {t : List Char} (ht : IsValue t) (depth : Nat) :
    Means Ends (color.read depth) t fun c =>
      ∃ s, Reads Ends (string.read depth) t s ∧ colorOf s = .ok c :=
  (blind_string.decided depth t ht).map fun s _ => .ofExcept (colorOf s)

theorem blind_color : color.Blind where
  skips depth := (blind_string.skips depth).bind _
  decided depth _ ht := (means_color ht depth).decided
  reordered depth t t' c ht hread := by
    rw [(means_color ht.isValue.1 depth).iff ends_nil] at hread
    obtain ⟨s, hs, hc⟩ := hread
    exact (means_color ht.isValue.2 depth).reads c ⟨s, blind_string.reordered depth t t' s ht hs, hc⟩

end Scalars

section Lists

variable {item : Format α}

theorem AreItems.stand {items : List Item} (hitems : AreItems items) (h : item.Blind) (depth : Nat) :
    ∀ i ∈ items, i.Stands (item.read depth) := by
  intro i hi
  obtain ⟨hspaced, hvalue⟩ := hitems i hi
  exact ⟨hspaced, hvalue.startsValue, h.decided depth _ hvalue⟩

def ListOf (item : Format α) (depth : Nat) (items : List Item) (as : List α) : Prop :=
  ∃ d, depth = d + 2 ∧ List.Forall₂ (fun i a => Reads Ends (item.read (d + 1)) i.value a) items as

theorem reading_list (h : item.Blind) : (list item).Reading (ListOf item) fun _ _ _ => False where
  skips _ := skipsGaps_peekValue _
  token depth t ht := by
    obtain ⟨c, u, rfl, hfrom⟩ := ht.tokenFrom
    apply Decided.peekValue_token hfrom.opensToken.opens.1
    rw [if_neg hfrom.opensToken.list]
    exact decided_wrongKind "a sequence" c
  list depth items blank hblank hitems := by
    refine .peekValue_token rfl (.positioned (.of_depth fun d => ?_))
    have hitems := means_allElements (hitems.stand h (d + 1)) hblank isGap_nil true
    rw [List.nil_append, ← commas_eq_listed] at hitems
    exact means_listText _ hitems
  object depth ms blank _ _ :=
    .peekValue_token rfl (.of_refuses (.wrongKind "a sequence" '\x7b') fun _ => id)

theorem blind_list (h : item.Blind) : (list item).Blind := by
  refine (reading_list h).blind ?_ fun _ _ _ _ _ _ => id
  rintro depth pairs as hpairs ⟨d, rfl, hread⟩
  refine ⟨d, rfl, ?_⟩
  rw [List.forall₂_map_left_iff] at hread ⊢
  have hboth := (List.forall₂_and_left pairs as).2 ⟨hpairs, hread⟩
  exact hboth.imp fun p a hp => h.reordered _ _ _ a hp.1 hp.2

end Lists

section Documents

variable {f : Format α} {t t' before after : List Char} {a : α}

def document (before t after : List Char) : String :=
  String.ofList (before ++ (t ++ after))

theorem reads_peekToken_end (hafter : IsGap after) : Reads (· = []) peekToken after none := by
  rintro _ p rfl
  have hdrop : (after ++ []).dropWhile isSpace = [] := by
    rw [List.dropWhile_append_of_pos hafter]
    rfl
  refine ⟨((after ++ []).takeWhile isSpace).foldl Cursor.moved p, ?_⟩
  show (Except.ok ((after ++ []).dropWhile isSpace).head?,
    (⟨(after ++ []).dropWhile isSpace, _⟩ : Cursor)) = _
  rw [hdrop]
  rfl

def documentEnd (a : α) : Reader α := do
  match ← peekToken with
  | none => return a
  | some _ => failAhead .trailingCharacters

theorem Means.run_iff {r : Reader α} {G : α → Prop} (h : Means (· = []) r t G) (p : Position) :
    (r ⟨t, p⟩).1 = .ok a ↔ G a := by
  rw [← List.append_nil t]
  constructor
  · intro hok
    by_cases hsome : ∃ b, G b
    · obtain ⟨b, hb⟩ := hsome
      obtain ⟨q, hq⟩ := h.reads b hb [] p rfl
      rw [hq] at hok
      exact Except.ok.inj hok ▸ hb
    · obtain ⟨e, c, he⟩ := h.refuses (not_exists.1 hsome) [] p rfl
      rw [he] at hok
      contradiction
  · intro ha
    obtain ⟨q, hq⟩ := h.reads a ha [] p rfl
    rw [hq]

theorem parse_document (h : f.Blind) (hbefore : IsGap before) (ht : IsValue t) (hafter : IsGap after) :
    parse f (document before t after) = .ok a ↔ Reads Ends (f.read maxDepth) t a := by
  have hvalue := (h.skips maxDepth).means hbefore ht.startsValue (h.decided maxDepth t ht)
  have hend (a : α) : Means (· = []) (documentEnd a) after (· = a) :=
    .reads_map (reads_peekToken_end hafter) (.pure a)
  have hwhole : Means (· = []) (f.read maxDepth >>= documentEnd) ((before ++ t) ++ after) _ :=
    hvalue.bind (fun a _ => hend a) fun rest hrest => by
      rw [hrest]
      exact ends_gap hafter ends_nil
  have hparse : parse f (document before t after) =
      ((f.read maxDepth >>= documentEnd) ⟨(before ++ t) ++ after, ⟨1, 0⟩⟩).1 := by
    rw [List.append_assoc]
    unfold parse document Cursor.ofText
    rw [String.toList_ofList]
    rfl
  rw [hparse, hwhole.run_iff]
  exact ⟨fun ⟨_, h, heq⟩ => heq ▸ h, fun h => ⟨a, h, rfl⟩⟩

/-- In whatever order the members of its objects stand, at any level, a document is parsed as the same. -/
def OrderBlind (f : Format α) : Prop :=
  ∀ t t' before before' after after' a, Reordered t t' → IsGap before → IsGap before' → IsGap after →
    IsGap after' → parse f (document before t after) = .ok a →
    parse f (document before' t' after') = .ok a

theorem Format.Blind.orderBlind (h : f.Blind) : OrderBlind f := by
  intro t t' before before' after after' a ht hbefore hbefore' hafter hafter' hparse
  rw [parse_document h hbefore ht.isValue.1 hafter] at hparse
  rw [parse_document h hbefore' ht.isValue.2 hafter']
  exact h.reordered maxDepth t t' a ht hparse

end Documents

end Storefront.Json
