import Storefront.Proofs.Json.Tokens

/-! Every value is passed over whole, however deep its brackets nest. -/

namespace Storefront.Json

open Reader Format

variable {P : List Char → Prop} {frames : List Frame} {f : Frame} {gap blank t u : List Char} {c : Char}
  {fuel : Nat}

theorem IsGap.append {gap' : List Char} (h : IsGap gap) (h' : IsGap gap') : IsGap (gap ++ gap') := by
  intro c hc
  rcases List.mem_append.1 hc with hc | hc
  · exact h c hc
  · exact h' c hc

theorem ends_gap (hgap : IsGap gap) (hu : Ends u) : Ends (gap ++ u) := by
  cases gap with
  | nil => exact hu
  | cons c gap =>
    intro d hd
    obtain rfl : c = d := Option.some.inj hd
    exact .inr (.inr (.inr (hgap c (List.mem_cons_self ..))))

theorem ends_behind (hgap : IsGap gap) (hblank : IsGap blank) (ts : List (List Char)) (hu : Ends u) :
    Ends ((gap ++ (listed false ts ++ blank)) ++ u) := by
  rw [List.append_assoc, List.append_assoc]
  exact ends_gap hgap (ends_listed ts (ends_gap hblank hu))

def afterValue (fuel : Nat) (frames : List Frame) : Reader Unit := do
  let left ← closeFrames true frames
  if left = [] then return () else skipFrom fuel left

def PassedOver (t : List Char) : Prop :=
  ∀ (P : List Char → Prop) (frames : List Frame) (fuel : Nat) (gap u : List Char), IsGap gap →
    (∀ rest, P rest → Ends (u ++ rest)) →
    (∀ n, u.length ≤ n → Reads P (afterValue n frames) u ()) →
    (gap ++ (t ++ u)).length < fuel → Reads P (skipFrom fuel frames) (gap ++ (t ++ u)) ()

theorem passedOver_token (h : IsToken t) : PassedOver t := by
  intro P frames fuel gap u hgap hends hafter hfuel
  obtain ⟨c, v, rfl, hfrom⟩ := h.tokenFrom
  obtain ⟨fuel, rfl⟩ : ∃ n, fuel = n + 1 := ⟨fuel - 1, by omega⟩
  have hlength : u.length ≤ fuel := by
    simp only [List.length_append, List.length_cons] at hfuel
    omega
  unfold skipFrom
  apply Reads.token_bind hgap hfrom.opensToken.opens.1
  exact hfrom.reads_skipToken.bind (hafter fuel hlength) hends

namespace Frame

def opening : Frame → Char
  | .list => '['
  | .object => '\x7b'

def close : Frame → Char
  | .list => ']'
  | .object => '\x7d'

theorem isSpace_opening (f : Frame) : isSpace f.opening = false := by
  cases f <;> rfl

theorem isSpace_close (f : Frame) : isSpace f.close = false := by
  cases f <;> rfl

theorem close_ne_comma (f : Frame) : f.close ≠ ',' := by
  cases f <;> decide

theorem ends_close (f : Frame) (rest : List Char) : Ends (f.close :: rest) := by
  cases f with
  | list => exact ends_of_begins_bracket rfl
  | object => exact ends_of_begins_brace rfl

theorem reads_opening (f : Frame) : Reads P (skipToken f.opening) [f.opening] (some f) := by
  cases f with
  | list => exact .eat_bind (.pure _)
  | object => exact .eat_bind (.pure _)

end Frame

section Closing

variable {k : List Frame → Reader Unit} {comma : Bool}

theorem closeFrames_cons (comma : Bool) (f : Frame) (outer : List Frame) :
    closeFrames comma (f :: outer) = do
      match ← peekToken with
      | none => failAhead (match f with | .list => .endOfList | .object => .endOfObject)
      | some c =>
        if c = ',' ∧ comma then do
          eat
          skipStart f
          return f :: outer
        else if c = f.close then do
          eat
          closeFrames true outer
        else if comma then
          failAhead (match f with
            | .list => .expectedListCommaOrEnd
            | .object => .expectedObjectCommaOrEnd)
        else do
          skipStart f
          return f :: outer := by
  cases f <;> rfl

theorem reads_closeFrames_end (hgap : IsGap gap) (h : Reads P (closeFrames true frames >>= k) u ()) :
    Reads P (closeFrames comma (f :: frames) >>= k) (gap ++ f.close :: u) () := by
  rw [closeFrames_cons, Reader.bind_assoc]
  apply Reads.token_bind hgap f.isSpace_close
  dsimp only
  rw [if_neg fun h => f.close_ne_comma h.1, if_pos rfl, Reader.bind_assoc]
  exact .eat_bind h

theorem reads_closeFrames_comma (hgap : IsGap gap)
    (h : Reads P (skipStart f >>= fun _ => k (f :: frames)) t ()) :
    Reads P (closeFrames true (f :: frames) >>= k) (gap ++ ',' :: t) () := by
  rw [closeFrames_cons, Reader.bind_assoc]
  apply Reads.token_bind hgap rfl
  dsimp only
  rw [if_pos ⟨rfl, rfl⟩, Reader.bind_assoc]
  apply Reads.eat_bind
  rw [Reader.bind_assoc]
  exact h

theorem reads_closeFrames_first (hgap : IsGap gap) (hc : isSpace c = false) (hclose : c ≠ f.close)
    (h : Reads P (skipStart f >>= fun _ => k (f :: frames)) (c :: t) ()) :
    Reads P (closeFrames false (f :: frames) >>= k) (gap ++ c :: t) () := by
  rw [closeFrames_cons, Reader.bind_assoc]
  apply Reads.token_bind hgap hc
  dsimp only
  rw [if_neg fun h => Bool.false_ne_true h.2, if_neg hclose, if_neg Bool.false_ne_true,
    Reader.bind_assoc]
  exact h

end Closing

structure Entry where
  space : List Char
  front : List Char
  value : List Char
  after : List Char

def Entry.text (e : Entry) : List Char :=
  e.space ++ (e.front ++ (e.value ++ e.after))

def LeadsTo (f : Frame) (front : List Char) : Prop :=
  ∃ lead gap, front = lead ++ gap ∧ IsGap gap ∧ Reads (fun _ => True) (skipStart f) lead ()

structure Entry.Stands (f : Frame) (e : Entry) : Prop where
  space : IsGap e.space
  front : LeadsTo f e.front
  spaced : LeadsTo f (e.space ++ e.front)
  opens : ∃ c t, e.front ++ e.value = c :: t ∧ isSpace c = false ∧ c ≠ f.close
  value : PassedOver e.value
  after : IsGap e.after

theorem reads_front {front value : List Char} (hfront : LeadsTo f front) (hvalue : PassedOver value)
    (hends : ∀ rest, P rest → Ends (u ++ rest))
    (hafter : ∀ n, u.length ≤ n → Reads P (afterValue n (f :: frames)) u ())
    (hfuel : (front ++ (value ++ u)).length < fuel) :
    Reads P (skipStart f >>= fun _ => skipFrom fuel (f :: frames)) (front ++ (value ++ u)) () := by
  obtain ⟨lead, gap, rfl, hgap, hlead⟩ := hfront
  rw [List.append_assoc]
  refine hlead.bind (hvalue P (f :: frames) fuel gap u hgap hends hafter ?_) fun _ _ => trivial
  rw [List.append_assoc, List.length_append] at hfuel
  omega

theorem ends_entries (hgap : IsGap gap) (hblank : IsGap blank) (ts : List (List Char)) (rest : List Char) :
    Ends ((gap ++ (listed false ts ++ (blank ++ f.close :: u))) ++ rest) := by
  have h := ends_behind hgap hblank ts (f.ends_close (u ++ rest))
  simpa only [List.append_assoc, List.cons_append] using h

theorem reads_entries {es : List Entry} (hes : ∀ e ∈ es, e.Stands f) (hblank : IsGap blank)
    (hafter : ∀ n, u.length ≤ n → Reads P (afterValue n frames) u ()) (hgap : IsGap gap) {n : Nat}
    (hn : (gap ++ (listed false (es.map Entry.text) ++ (blank ++ f.close :: u))).length ≤ n) :
    Reads P (afterValue n (f :: frames))
      (gap ++ (listed false (es.map Entry.text) ++ (blank ++ f.close :: u))) () := by
  induction es generalizing gap n with
  | nil =>
    have hlength : u.length ≤ n := by
      simp only [List.length_append, List.length_cons] at hn
      omega
    rw [List.map_nil, listed, List.nil_append, ← List.append_assoc]
    exact reads_closeFrames_end (hgap.append hblank) (hafter n hlength)
  | cons e es ih =>
    obtain ⟨he, hes⟩ := List.forall_mem_cons.1 hes
    have hrest (n : Nat) := ih hes he.after (n := n)
    have htext : gap ++ (listed false ((e :: es).map Entry.text) ++ (blank ++ f.close :: u)) =
        gap ++ ',' :: ((e.space ++ e.front) ++ (e.value ++
          (e.after ++ (listed false (es.map Entry.text) ++ (blank ++ f.close :: u))))) := by
      simp only [List.map_cons, listed, lead, Entry.text, List.append_assoc, List.cons_append,
        List.nil_append, Bool.false_eq_true, if_false]
    rw [htext] at hn ⊢
    rw [List.length_append, List.length_cons] at hn
    have hvalue := reads_front he.spaced he.value
      (fun rest _ => ends_entries he.after hblank (es.map Entry.text) rest) hrest
      (show _ < n by omega)
    apply reads_closeFrames_comma hgap
    rw [if_neg (List.cons_ne_nil f frames)]
    exact hvalue

theorem passedOver_entries {es : List Entry} (hes : ∀ e ∈ es, e.Stands f) (hblank : IsGap blank) :
    PassedOver (f.opening :: (commas (es.map Entry.text) ++ (blank ++ [f.close]))) := by
  intro P frames fuel gap u hgap hends hafter hfuel
  obtain ⟨fuel, rfl⟩ : ∃ n, fuel = n + 1 := ⟨fuel - 1, by omega⟩
  have htext : f.opening :: (commas (es.map Entry.text) ++ (blank ++ [f.close])) ++ u =
      [f.opening] ++ (commas (es.map Entry.text) ++ (blank ++ f.close :: u)) := by
    simp only [List.append_assoc, List.cons_append, List.nil_append]
  rw [htext] at hfuel ⊢
  have hlength : (commas (es.map Entry.text) ++ (blank ++ f.close :: u)).length < fuel := by
    rw [List.length_append, List.length_append, List.length_singleton] at hfuel
    omega
  unfold skipFrom
  apply Reads.token_bind hgap f.isSpace_opening
  refine Reads.bind (Q := fun _ => True) f.reads_opening ?_ fun _ _ => trivial
  dsimp only
  cases es with
  | nil =>
    rw [List.map_nil, commas, List.nil_append]
    refine reads_closeFrames_end hblank (hafter fuel ?_)
    simp only [List.length_append, List.length_cons] at hlength
    omega
  | cons e es =>
    obtain ⟨he, hes⟩ := List.forall_mem_cons.1 hes
    have hrest (n : Nat) := reads_entries hes hblank hafter he.after (n := n)
    have htext : commas ((e :: es).map Entry.text) ++ (blank ++ f.close :: u) =
        e.space ++ ((e.front ++ e.value) ++
          (e.after ++ (listed false (es.map Entry.text) ++ (blank ++ f.close :: u)))) := by
      simp only [commas_eq_listed, List.map_cons, listed, lead, Entry.text, List.append_assoc,
        List.nil_append, if_true]
    rw [htext] at hlength ⊢
    rw [List.length_append, List.append_assoc] at hlength
    have hvalue := reads_front he.front he.value
      (fun rest _ => ends_entries he.after hblank (es.map Entry.text) rest) hrest
      (show _ < fuel by omega)
    obtain ⟨c, t, heq, hc, hclose⟩ := he.opens
    rw [← List.append_assoc, heq] at hvalue
    rw [heq]
    apply reads_closeFrames_first he.space hc hclose
    rw [if_neg (List.cons_ne_nil f frames)]
    exact hvalue

def Item.entry (i : Item) : Entry :=
  ⟨i.before, [], i.value, i.after⟩

theorem Item.stands {i : Item} (hi : i.Spaced) (hstarts : StartsValue i.value)
    (hvalue : PassedOver i.value) : i.entry.Stands .list where
  space := hi.before
  front := ⟨[], [], rfl, isGap_nil, .pure ()⟩
  spaced := ⟨[], i.before, List.append_nil _, hi.before, .pure ()⟩
  opens := by
    obtain ⟨c, t, heq, hspace, hclose, -⟩ := hstarts
    exact ⟨c, t, heq, hspace, hclose⟩
  value := hvalue
  after := hi.after

def Member.entry (m : Member) : Entry :=
  ⟨m.before, '"' :: (m.key ++ '"' :: (m.gap ++ ':' :: m.item.before)), m.item.value, m.item.after⟩

theorem Member.text_entry (m : Member) : m.entry.text = m.text := by
  simp only [Entry.text, Member.entry, Member.text, Item.text, List.append_assoc, List.cons_append]

theorem leadsTo_key {key before : List Char} {space : List Char} (hspace : IsGap space)
    (hkey : IsStringBody key) (hgap : IsGap gap) (hbefore : IsGap before) :
    LeadsTo .object (space ++ '"' :: (key ++ '"' :: (gap ++ ':' :: before))) := by
  refine ⟨space ++ '"' :: ((key ++ ['"']) ++ (gap ++ [':'])), before, ?_, hbefore, ?_⟩
  · simp only [List.append_assoc, List.cons_append, List.nil_append]
  · have hcolon : Reads (fun _ => True) colon (gap ++ [':']) () := .colon hgap
    have hstring : Reads (fun _ => True) skipString (key ++ ['"']) () := reads_skipString hkey
    show Reads _ skipKey _ ()
    unfold skipKey
    apply Reads.token_bind hspace rfl
    exact .eat_bind (hstring.bind hcolon fun _ _ => trivial)

theorem Member.stands {m : Member} (hm : m.Spaced) (hvalue : PassedOver m.item.value) :
    m.entry.Stands .object where
  space := hm.before
  front := leadsTo_key isGap_nil hm.key hm.gap hm.item.before
  spaced := leadsTo_key hm.before hm.key hm.gap hm.item.before
  opens := ⟨'"', _, rfl, rfl, by decide⟩
  value := hvalue
  after := hm.item.after

theorem IsValue.passedOver (h : IsValue t) : PassedOver t := by
  induction h with
  | token h => exact passedOver_token h
  | @list items blank hblank hitems hvalues ih =>
    have hes : ∀ e ∈ items.map Item.entry, e.Stands .list := by
      intro e he
      obtain ⟨i, hi, rfl⟩ := List.mem_map.1 he
      exact Item.stands (hitems i hi) (hvalues i hi).startsValue (ih i hi)
    have h := passedOver_entries hes hblank
    rwa [List.map_map] at h
  | @object ms blank hblank hms _ ih =>
    have hes : ∀ e ∈ ms.map Member.entry, e.Stands .object := by
      intro e he
      obtain ⟨m, hm, rfl⟩ := List.mem_map.1 he
      exact Member.stands (hms m hm) (ih m hm)
    have htexts : (ms.map Member.entry).map Entry.text = ms.map Member.text := by
      rw [List.map_map]
      exact List.map_congr_left fun m _ => m.text_entry
    have h := passedOver_entries hes hblank
    rwa [htexts] at h

theorem reads_skipValue (hgap : IsGap gap) (h : IsValue t) : Reads Ends skipValue (gap ++ t) () := by
  have hafter (n : Nat) : Reads Ends (afterValue n []) [] () := .pure ()
  unfold skipValue
  refine Reads.remaining_bind fun n hn => ?_
  have hskip := h.passedOver Ends [] (n + 1) gap [] hgap (fun _ hrest => hrest) (fun n _ => hafter n)
  rw [List.append_nil] at hskip
  exact hskip (Nat.lt_succ_of_le hn)

end Storefront.Json
