import Storefront.Proofs.Json.KeptOrder
import Storefront.Report.Json

/-! Sizes, placements, outcomes and reports are read the same in whatever order the members of their
objects stand; of an outcome also wherever its status stands. -/

namespace Storefront

open Json Reader Format Record

namespace Dimensions

def slots : List (Slot Fields) :=
  [⟨UInt32, "width", .uint32, Fields.width, fun a p => { p with width := some a }⟩,
   ⟨UInt32, "height", .uint32, Fields.height, fun a p => { p with height := some a }⟩]

theorem lawful : record.Lawful slots where
  fields := rfl
  blind := by simp [slots, blind_uint32]
  slots := ⟨by simp [slots], by simp [slots, Slot.apart_iff]⟩

theorem blind_json : json.Blind := blind_record lawful

theorem keptBlind_json : json.KeptBlind := keptBlind_record lawful (by simp [slots, keptBlind_uint32])

end Dimensions

namespace Placement

def slots : List (Slot Fields) :=
  [⟨Dimensions, "scaled", Dimensions.json, Fields.scaled, fun a p => { p with scaled := some a }⟩,
   ⟨UInt32, "offset_x", .uint32, Fields.offsetX, fun a p => { p with offsetX := some a }⟩,
   ⟨UInt32, "offset_y", .uint32, Fields.offsetY, fun a p => { p with offsetY := some a }⟩]

theorem lawful : record.Lawful slots where
  fields := rfl
  blind := by simp [slots, Dimensions.blind_json, blind_uint32]
  slots := ⟨by simp [slots], by simp [slots, Slot.apart_iff]⟩

theorem blind_json : json.Blind := blind_record lawful

theorem keptBlind_json : json.KeptBlind :=
  keptBlind_record lawful (by simp [slots, Dimensions.keptBlind_json, keptBlind_uint32])

end Placement

namespace ItemOutcome

def normalizedSlots : List (Slot NormalizedFields) :=
  [⟨Path, "source", .path, NormalizedFields.source, fun a p => { p with source := some a }⟩,
   ⟨Path, "output", .path, NormalizedFields.output, fun a p => { p with output := some a }⟩,
   ⟨Dimensions, "original", Dimensions.json, NormalizedFields.sourceSize,
     fun a p => { p with sourceSize := some a }⟩,
   ⟨Placement, "placement", Placement.json, NormalizedFields.placement,
     fun a p => { p with placement := some a }⟩,
   ⟨Bool, "flattened_alpha", .bool, NormalizedFields.flattenedAlpha,
     fun a p => { p with flattenedAlpha := some a }⟩]

theorem lawful_normalized : normalizedRecord.Lawful normalizedSlots where
  fields := rfl
  blind := by
    simp [normalizedSlots, blind_path, Dimensions.blind_json, Placement.blind_json, blind_bool]
  slots := ⟨by simp [normalizedSlots], by simp [normalizedSlots, Slot.apart_iff]⟩

def failedSlots : List (Slot FailedFields) :=
  [⟨Path, "source", .path, FailedFields.source, fun a p => { p with source := some a }⟩,
   ⟨String, "cause", .string, FailedFields.cause, fun a p => { p with cause := some a }⟩]

theorem lawful_failed : failedRecord.Lawful failedSlots where
  fields := rfl
  blind := by simp [failedSlots, blind_path, blind_string]
  slots := ⟨by simp [failedSlots], by simp [failedSlots, Slot.apart_iff]⟩

theorem keptBlind_path : path.KeptBlind := keptBlind_ofString _ _ _

theorem keptBlind_string : string.KeptBlind := keptBlind_ofString _ _ _

theorem ofFields_reordered {status : Status} {v v' : Kept} {o : ItemOutcome} (hv : v.Reordered v')
    (h : ofFields status v = .ok o) : ofFields status v' = .ok o := by
  cases status with
  | normalized =>
    refine keptBlind_record lawful_normalized ?_ v v' o hv h
    simp [normalizedSlots, keptBlind_path, Dimensions.keptBlind_json, Placement.keptBlind_json,
      keptBlind_bool]
  | failed =>
    refine keptBlind_record lawful_failed ?_ v v' o hv h
    simp [failedSlots, keptBlind_path, keptBlind_string]

def statusFormat : Format Status :=
  .ofString "variant identifier" statusOf Status.text

theorem blind_status : statusFormat.Blind := blind_ofString _ _ _

/-- What a member tells: the status, or something that is kept. -/
inductive Tells (depth : Nat) (m : Member) : Status ⊕ String × Kept → Prop
  | status {s : Status} (hkey : Spelled m.key statusKey.toList) (hs : Reads Ends readStatus m.item.value s) :
      Tells depth m (.inl s)
  | other {e : String × Kept} (hkey : e.1 ≠ statusKey) (he : m.Keeps (readKept depth) e) :
      Tells depth m (.inr e)

def statuses (told : List (Status ⊕ String × Kept)) : List Status :=
  told.filterMap Sum.getLeft?

def entries (told : List (Status ⊕ String × Kept)) : List (String × Kept) :=
  told.filterMap Sum.getRight?

theorem statuses_cons (told : Status ⊕ String × Kept) (tolds : List (Status ⊕ String × Kept)) :
    statuses (told :: tolds) = statuses [told] ++ statuses tolds := by
  cases told <;> rfl

theorem reverse_entries_cons (told : Status ⊕ String × Kept) (tolds : List (Status ⊕ String × Kept))
    (es : List (String × Kept)) :
    (entries (told :: tolds)).reverse ++ es = (entries tolds).reverse ++ (entries [told] ++ es) := by
  cases told with
  | inl s => rfl
  | inr e =>
    show (e :: entries tolds).reverse ++ es = (entries tolds).reverse ++ (e :: es)
    rw [List.reverse_cons, List.append_assoc]
    rfl

variable {depth : Nat} {m : Member} {ms : List Member} {blank : List Char}

abbrev State := Option Status × List (String × Kept)

theorem means_readMember (hm : m.Spaced) (hvalue : IsValue m.item.value) (state : State) (key : String) :
    Means Ends (readMember (depth + 1) state key) m.rest fun state' =>
      if key = statusKey then
        state.1 = none ∧ ∃ s, Reads Ends readStatus m.item.value s ∧ state' = (some s, state.2)
      else ∃ v, Reads Ends (readKept (depth + 1)) m.item.value v ∧
        state' = (state.1, (key, v) :: state.2) := by
  obtain ⟨status, es⟩ := state
  unfold readMember
  by_cases hkey : key = statusKey
  · simp only [if_pos hkey]
    cases status with
    | some s => exact .of_refuses (.fail _) fun _ h => nomatch h.1
    | none =>
      have hread := (blind_status.skips 0).means hm.item.before hvalue.startsValue
        (blind_status.decided 0 _ hvalue)
      have htail := hread.map_pure fun s => (some s, es)
      rw [m.rest_eq]
      refine (Means.reads_bind (reads_colon hm) htail fun _ _ => trivial).congr fun state' => ?_
      exact ⟨And.right, fun h => ⟨rfl, h⟩⟩
  · simp only [if_neg hkey]
    have hkept := means_keepMember (skipsGaps_readKept depth) hm hvalue (decided_readKept _ hvalue) es key
    refine (hkept.map_pure fun es => (status, es)).congr fun state' => ?_
    exact ⟨fun ⟨v, hv, h⟩ => ⟨_, ⟨v, hv, rfl⟩, h⟩, fun ⟨_, ⟨v, hv, rfl⟩, h⟩ => ⟨v, hv, h⟩⟩

section Options

variable {β : Type} {o o' : Option β}

theorem eq_of_toList (h : o.toList = o'.toList) : o = o' := by
  cases o <;> cases o' <;> simp_all

theorem exists_toList {xs ys : List β} (h : xs ++ ys = o.toList) : ∃ o' : Option β, o'.toList = xs := by
  match xs with
  | [] => exact ⟨none, rfl⟩
  | [x] => exact ⟨some x, rfl⟩
  | x :: y :: xs => cases o <;> simp at h

theorem none_of_toList_append {x : β} (h : o.toList ++ [x] = o'.toList) : o = none ∧ o' = some x := by
  cases o <;> cases o' <;> simp_all

end Options

theorem takes_iff (hm : m.Spaced) (hvalue : IsValue m.item.value) (state state' : State) :
    m.Takes (readMember (depth + 1)) state state' ↔ ∃ told, Tells (depth + 1) m told ∧
      state.1.toList ++ statuses [told] = state'.1.toList ∧ state'.2 = entries [told] ++ state.2 := by
  obtain ⟨status, es⟩ := state
  obtain ⟨status', es'⟩ := state'
  unfold Member.Takes
  simp only [(means_readMember hm hvalue _ _).iff ends_nil]
  constructor
  · rintro ⟨key, hkey, h⟩
    split at h
    next heq =>
      obtain ⟨rfl, s, hs, heq'⟩ := h
      obtain ⟨rfl, rfl⟩ := Prod.mk.inj heq'
      exact ⟨.inl s, .status (heq ▸ hkey) hs, rfl, rfl⟩
    next hne =>
      obtain ⟨v, hv, heq'⟩ := h
      obtain ⟨rfl, rfl⟩ := Prod.mk.inj heq'
      exact ⟨.inr (key, v), .other hne ⟨hkey, hv⟩, List.append_nil _, rfl⟩
  · rintro ⟨told, htold, hstatus, rfl⟩
    cases htold with
    | @status s hkey hs =>
      refine ⟨statusKey, hkey, ?_⟩
      rw [if_pos rfl]
      obtain ⟨rfl, rfl⟩ := none_of_toList_append hstatus
      exact ⟨rfl, s, hs, rfl⟩
    | @other e hkey he =>
      refine ⟨e.1, he.1, ?_⟩
      rw [if_neg hkey]
      obtain rfl : status = status' := eq_of_toList ((List.append_nil _).symm.trans hstatus)
      exact ⟨e.2, he.2, rfl⟩

theorem through_readMember (hms : AreMembers ms) (state state' : State) :
    Through (Member.Takes (readMember (depth + 1))) ms state state' ↔
      ∃ told, List.Forall₂ (Tells (depth + 1)) ms told ∧
        state.1.toList ++ statuses told = state'.1.toList ∧
        state'.2 = (entries told).reverse ++ state.2 := by
  induction ms generalizing state with
  | nil =>
    obtain ⟨status, es⟩ := state
    obtain ⟨status', es'⟩ := state'
    rw [Through.nil_iff, Prod.mk.injEq]
    simp only [List.forall₂_nil_left_iff, exists_eq_left]
    exact ⟨fun ⟨hstatus, hes⟩ => ⟨by rw [hstatus]; exact List.append_nil _, hes⟩,
      fun ⟨hstatus, hes⟩ => ⟨(eq_of_toList ((List.append_nil _).symm.trans hstatus)).symm, hes⟩⟩
  | cons m ms ih =>
    obtain ⟨⟨hm, hvalue⟩, hms⟩ := List.forall_mem_cons.1 hms
    simp only [Through.cons_iff, takes_iff hm hvalue, ih hms, List.forall₂_cons_left_iff]
    constructor
    · rintro ⟨state₁, ⟨told, htold, hstatus, hentries⟩, tolds, htolds, hrest, hentries'⟩
      refine ⟨told :: tolds, ⟨told, tolds, htold, htolds, rfl⟩, ?_, ?_⟩
      · rw [← hrest, ← hstatus, statuses_cons, List.append_assoc]
      · rw [hentries', hentries, reverse_entries_cons]
    · rintro ⟨_, ⟨told, tolds, htold, htolds, rfl⟩, hstatus, hentries⟩
      rw [statuses_cons, ← List.append_assoc] at hstatus
      obtain ⟨status₁, hfirst⟩ := exists_toList hstatus
      refine ⟨(status₁, entries [told] ++ state.2), ⟨told, htold, hfirst.symm, rfl⟩, tolds, htolds, ?_, ?_⟩
      · rw [hfirst, hstatus]
      · rw [hentries, reverse_entries_cons]

def membersEnd (state : State) : Reader (Status × Kept) :=
  match state with
  | (some status, es) => pure (status, .object es.reverse)
  | (none, _) => fail (.missingField statusKey)

theorem readMembers_eq (depth : Nat) :
    readMembers depth = allMembers (readMember depth) (none, []) >>= membersEnd := by
  unfold readMembers
  congr 1
  funext ⟨status, es⟩
  cases status <;> rfl

theorem means_membersEnd {P : List Char → Prop} (state : State) :
    Means P (membersEnd state) [] fun x =>
      ∃ status, state.1 = some status ∧ x = (status, .object state.2.reverse) := by
  match state with
  | (some status, es) => exact (Means.pure _).congr fun x => by simp
  | (none, es) => exact .of_refuses (.fail _) fun x h => by simp at h

def MembersTell (depth : Nat) (ms : List Member) (x : Status × Kept) : Prop :=
  ∃ told status, List.Forall₂ (Tells depth) ms told ∧ statuses told = [status] ∧
    x = (status, .object (entries told))

theorem means_readMembers (hms : AreMembers ms) (hblank : IsGap blank) :
    Means (Begins '\x7d') (readMembers (depth + 1)) (commas (ms.map Member.text) ++ blank)
      (MembersTell (depth + 1) ms) := by
  have hstand : ∀ m ∈ ms, m.Stands (readMember (depth + 1)) := by
    intro m hm
    exact ⟨(hms m hm).1, fun state key =>
      (means_readMember (hms m hm).1 (hms m hm).2 state key).decided⟩
  have hloop := means_allMembers hstand hblank ((none, []) : State)
  rw [readMembers_eq]
  refine (hloop.map fun state _ => means_membersEnd state).congr fun x => ?_
  constructor
  · rintro ⟨told, status, htold, hstatus, rfl⟩
    refine ⟨(some status, (entries told).reverse), ?_, status, rfl, by simp⟩
    exact (through_readMember hms (none, []) _).2 ⟨told, htold, hstatus, (List.append_nil _).symm⟩
  · rintro ⟨⟨_, es⟩, hthrough, status, rfl, rfl⟩
    obtain ⟨told, htold, hstatus, rfl⟩ := (through_readMember hms (none, []) _).1 hthrough
    exact ⟨told, status, htold, hstatus, by simp⟩

def ItemsTell (depth : Nat) (items : List Item) (x : Status × Kept) : Prop :=
  ∃ i is status vs, items = i :: is ∧ Reads Ends readStatus i.value status ∧
    List.Forall₂ (fun i v => Reads Ends (readKept depth) i.value v) is vs ∧ x = (status, .list vs)

theorem means_readItems {items : List Item} (hitems : AreItems items) (hblank : IsGap blank) :
    Means (Begins ']') (readItems (depth + 1)) (commas (items.map Item.text) ++ blank)
      (ItemsTell (depth + 1) items) := by
  rw [commas_eq_listed, ← List.nil_append (listed ..)]
  unfold readItems
  cases items with
  | nil =>
    refine Means.congr (.reads_map (reads_nextElement_end hblank true)
      (.of_refuses (.fail _) fun _ => id)) fun x => ?_
    simp [ItemsTell]
  | cons i is =>
    obtain ⟨⟨hspaced, hvalue⟩, his⟩ := List.forall_mem_cons.1 hitems
    have hi : i.Stands readStatus := ⟨hspaced, hvalue.startsValue, blind_status.decided 0 _ hvalue⟩
    have hstand : ∀ i ∈ is, i.Stands (readKept (depth + 1)) :=
      fun i hi => ⟨(his i hi).1, (his i hi).2.startsValue, decided_readKept _ (his i hi).2⟩
    have hrest := means_allElements hstand hblank hspaced.after false
    have hends (rest : List Char) (hr : Begins ']' rest) :=
      ends_behind hspaced.after hblank (is.map Item.text) (ends_of_begins_bracket hr)
    refine (Means.nextElement_bind hi isGap_nil true rfl
      (fun status => hrest.map_pure fun vs => (status, Kept.list vs)) hends).congr fun x => ?_
    constructor
    · rintro ⟨i', is', status, vs, heq, hs, hvs, hx⟩
      obtain ⟨rfl, rfl⟩ := List.cons.inj heq
      exact ⟨status, hs, vs, hvs, hx⟩
    · rintro ⟨status, hs, vs, hvs, hx⟩
      exact ⟨i, is, status, vs, rfl, hs, hvs, hx⟩

def SequenceOf (depth : Nat) (items : List Item) (o : ItemOutcome) : Prop :=
  ∃ x, (∃ d, depth = d + 2 ∧ ItemsTell (d + 1) items x) ∧ ofFields x.1 x.2 = .ok o

def ObjectOf (depth : Nat) (ms : List Member) (o : ItemOutcome) : Prop :=
  ∃ x, (∃ d, depth = d + 2 ∧ MembersTell (d + 1) ms x) ∧ ofFields x.1 x.2 = .ok o

def content (depth : Nat) (c : Char) : Reader (Status × Kept) :=
  if c = '[' then positioned (bracketed depth readItems endList)
  else if c = '\x7b' then positioned (bracketed depth readMembers endObject)
  else wrongKind expected c

theorem read_eq (depth : Nat) : json.read depth =
    peekValue >>= fun c => content depth c >>= fun x => ofExcept (ofFields x.1 x.2) := by
  show ItemOutcome.read depth = _
  unfold ItemOutcome.read content
  congr 1
  funext c
  split
  · rfl
  · split
    · rfl
    · rfl

theorem means_read {c : Char} {t : List Char} {G : Status × Kept → Prop} (hc : isSpace c = false)
    (h : Means Ends (content depth c) (c :: t) G) :
    Means Ends (json.read depth) (c :: t) fun o => ∃ x, G x ∧ ofFields x.1 x.2 = .ok o := by
  rw [read_eq]
  exact .peekValue_token hc (h.map fun x _ => .ofExcept (ofFields x.1 x.2))

theorem reading_json : json.Reading SequenceOf ObjectOf where
  skips depth := by
    rw [read_eq]
    exact skipsGaps_peekValue _
  token depth t ht := by
    obtain ⟨c, u, rfl, hfrom⟩ := ht.tokenFrom
    have hcontent : Refuses Ends (content depth c) (c :: u) := by
      unfold content
      rw [if_neg hfrom.opensToken.list, if_neg hfrom.opensToken.object]
      exact .wrongKind expected c
    exact (means_read hfrom.opensToken.opens.1 (.of_refuses hcontent fun _ => id)).decided
  list depth items blank hblank hitems := by
    have hcontent : Means Ends (content depth '[') (listText items blank) _ :=
      .positioned (.of_depth fun d => means_listText _ (means_readItems hitems hblank))
    exact means_read rfl hcontent
  object depth ms blank hblank hms := by
    have hcontent : Means Ends (content depth '\x7b') (objectText ms blank) _ :=
      .positioned (.of_depth fun d => means_objectText _ (means_readMembers hms hblank))
    exact means_read rfl hcontent

theorem SequenceOf.reordered {pairs : List (Item × Item)} {o : ItemOutcome} (hpairs : ItemsReordered pairs)
    (h : SequenceOf depth (pairs.map Prod.fst) o) : SequenceOf depth (pairs.map Prod.snd) o := by
  obtain ⟨_, ⟨d, rfl, i, is, status, vs, hitems, hs, hvs, rfl⟩, ho⟩ := h
  obtain ⟨pair, pairs, rfl, rfl, rfl⟩ := List.map_eq_cons_iff.1 hitems
  obtain ⟨hpair, hpairs⟩ := List.forall_mem_cons.1 hpairs
  rw [List.forall₂_map_left_iff] at hvs
  obtain ⟨ws, rfl, hws, hsame⟩ := exists_pairs hvs fun p hp v hv => readKept_reordered (hpairs p hp) hv
  have hkept : List.Forall₂ (fun i v => Reads Ends (readKept (d + 1)) i.value v)
      (pairs.map Prod.snd) (ws.map Prod.snd) := by
    rwa [List.forall₂_map_left_iff]
  exact ⟨(status, .list (ws.map Prod.snd)), ⟨d, rfl, pair.2, pairs.map Prod.snd, status, ws.map Prod.snd,
    rfl, blind_status.reordered 0 _ _ status hpair hs, hkept, rfl⟩, ofFields_reordered (.list hsame) ho⟩

/-- The same status, or the same of a value that is kept but for the order of members. -/
inductive SameTold : Status ⊕ String × Kept → Status ⊕ String × Kept → Prop
  | status (s : Status) : SameTold (.inl s) (.inl s)
  | other {key : String} {v v' : Kept} (hv : v.Reordered v') : SameTold (.inr (key, v)) (.inr (key, v'))

theorem Tells.reordered {m' : Member} {told : Status ⊕ String × Kept} (hkey : m.key = m'.key)
    (hvalue : Reordered m.item.value m'.item.value) (h : Tells depth m told) :
    ∃ told', Tells depth m' told' ∧ SameTold told told' := by
  cases h with
  | @status s hstatus hs =>
    exact ⟨.inl s, .status (hkey ▸ hstatus) (blind_status.reordered 0 _ _ s hvalue hs), .status s⟩
  | @other e hother he =>
    obtain ⟨v', hv', hsame⟩ := readKept_reordered hvalue he.2
    exact ⟨.inr (e.1, v'), .other hother ⟨hkey ▸ he.1, hv'⟩, .other hsame⟩

theorem told_reordered {tolds : List ((Status ⊕ String × Kept) × (Status ⊕ String × Kept))}
    (h : ∀ t ∈ tolds, SameTold t.1 t.2) :
    statuses (tolds.map Prod.fst) = statuses (tolds.map Prod.snd) ∧
      ∃ pairs : List ((String × Kept) × String × Kept), (∀ p ∈ pairs, p.1.1 = p.2.1) ∧
        (∀ p ∈ pairs, p.1.2.Reordered p.2.2) ∧ entries (tolds.map Prod.fst) = pairs.map Prod.fst ∧
        entries (tolds.map Prod.snd) = pairs.map Prod.snd := by
  induction tolds with
  | nil => exact ⟨rfl, [], by simp, by simp, rfl, rfl⟩
  | cons t tolds ih =>
    obtain ⟨ht, h⟩ := List.forall_mem_cons.1 h
    obtain ⟨hstatuses, pairs, hkeys, hvalues, hfirst, hsecond⟩ := ih h
    obtain ⟨told, told'⟩ := t
    cases ht with
    | status s => exact ⟨congrArg (s :: ·) hstatuses, pairs, hkeys, hvalues, hfirst, hsecond⟩
    | @other key v v' hv =>
      refine ⟨hstatuses, ((key, v), (key, v')) :: pairs, ?_, ?_, congrArg ((key, v) :: ·) hfirst,
        congrArg ((key, v') :: ·) hsecond⟩
      · exact List.forall_mem_cons.2 ⟨rfl, hkeys⟩
      · exact List.forall_mem_cons.2 ⟨hv, hvalues⟩

theorem ObjectOf.reordered {pairs : List (Member × Member)} {o : ItemOutcome}
    (hpairs : MembersReordered pairs) (hperm : (pairs.map Prod.snd).Perm ms)
    (h : ObjectOf depth (pairs.map Prod.fst) o) : ObjectOf depth ms o := by
  obtain ⟨_, ⟨d, rfl, told, status, htold, hstatus, rfl⟩, ho⟩ := h
  rw [List.forall₂_map_left_iff] at htold
  obtain ⟨tolds, rfl, hsecond, hsame⟩ := exists_pairs (S := fun p t => Tells (d + 1) p.2 t) htold
    fun p hp t ht => ht.reordered (hpairs p hp).1 (hpairs p hp).2
  have hmapped : List.Forall₂ (Tells (d + 1)) (pairs.map Prod.snd) (tolds.map Prod.snd) := by
    rwa [List.forall₂_map_left_iff]
  obtain ⟨told', htold', hperm'⟩ := List.perm_comp_forall₂ hperm.symm hmapped
  obtain ⟨hstatuses, entryPairs, hkeys, hvalues, hfirst, hother⟩ := told_reordered hsame
  have hstatus' : (statuses told').Perm [status] := by
    rw [← hstatus, hstatuses]
    exact hperm'.filterMap _
  have hentries : (entries (tolds.map Prod.snd)).Perm (entries told') := hperm'.symm.filterMap _
  rw [hother] at hentries
  refine ⟨(status, .object (entries told')), ⟨d, rfl, told', status, htold',
    List.perm_singleton.1 hstatus', rfl⟩, ofFields_reordered ?_ ho⟩
  show Kept.Reordered (.object (entries (tolds.map Prod.fst))) _
  rw [hfirst]
  exact .object hkeys hvalues hentries

theorem blind_json : json.Blind :=
  reading_json.blind (fun _ _ _ hpairs h => h.reordered hpairs)
    fun _ _ _ _ hpairs hperm h => h.reordered hpairs hperm

end ItemOutcome

namespace BatchReport

def slots : List (Slot Fields) :=
  [⟨List ItemOutcome, "outcomes", .list ItemOutcome.json, Fields.outcomes,
     fun a p => { p with outcomes := some a }⟩,
   ⟨Timestamp, "started_at", .timestamp, Fields.startedAt, fun a p => { p with startedAt := some a }⟩,
   ⟨Timestamp, "finished_at", .timestamp, Fields.finishedAt,
     fun a p => { p with finishedAt := some a }⟩]

theorem lawful : record.Lawful slots where
  fields := rfl
  blind := by simp [slots, blind_list ItemOutcome.blind_json, blind_timestamp]
  slots := ⟨by simp [slots], by simp [slots, Slot.apart_iff]⟩

theorem blind_json : json.Blind := blind_record lawful

end BatchReport

end Storefront
