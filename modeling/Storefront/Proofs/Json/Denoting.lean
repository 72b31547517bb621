import Storefront.Json.Record
import Storefront.Proofs.Json.Scalars

/-! Texts of values. Such a text is read as its value at once, and also when it is kept first; how
deep brackets nest in it is its level. -/

namespace Storefront.Json

open Reader Format Record

variable {α σ : Type}

namespace Reads

variable {P : List Char → Prop}

theorem nextKey (first : Bool) (key : String) :
    Reads P (nextKey first) (lead first ++ writeString key) (some key) := by
  have hkey : Reads P (keyHere '"') (writeString key) (some key) := by
    unfold keyHere
    rw [if_pos rfl]
    exact eat_bind ((reads_stringBody key).map (.pure _))
  unfold Json.nextKey
  cases first with
  | true => exact peekToken_bind rfl hkey
  | false => exact peekToken_bind rfl (eat_bind (peekToken_bind rfl hkey))

theorem nextKey_end (first : Bool) : Reads (Begins '\x7d') (Json.nextKey first) [] none := by
  unfold Json.nextKey
  exact (peekToken rfl).map (.pure none)

end Reads

inductive TakesIn (member : σ → String → Reader σ) : List (String × List Char) → σ → σ → Prop
  | nil (s : σ) : TakesIn member [] s s
  | cons {key : String} {text : List Char} {ms : List (String × List Char)} {s s₁ s₂ : σ}
      (head : Reads Ends (member s key) (':' :: text) s₁) (tail : TakesIn member ms s₁ s₂) :
      TakesIn member ((key, text) :: ms) s s₂

theorem startsValue_writeMember (m : String × List Char) : StartsValue (writeMember m) :=
  ⟨'"', _, rfl, rfl, by decide, by decide⟩

theorem TakesIn.lift {τ : Type} {member : σ → String → Reader σ} {member' : τ → String → Reader τ}
    {ms : List (String × List Char)} {s s' : σ} (h : TakesIn member ms s s') (g : σ → τ)
    (hlift : ∀ m ∈ ms, ∀ s text s₁, Reads Ends (member s m.1) text s₁ →
      Reads Ends (member' (g s) m.1) text (g s₁)) : TakesIn member' ms (g s) (g s') := by
  induction h with
  | nil s => exact .nil (g s)
  | @cons key text ms s s₁ s₂ hhead _ ih =>
    rw [List.forall_mem_cons] at hlift
    exact .cons (hlift.1 s (':' :: text) s₁ hhead) (ih hlift.2)

theorem TakesIn.members {member : σ → String → Reader σ} {ms : List (String × List Char)} {s s' : σ}
    (h : TakesIn member ms s s') (first : Bool) {fuel : Nat} (hfuel : ms.length < fuel) :
    Reads (Begins '\x7d') (members member fuel first s) (listed first (ms.map writeMember)) s' := by
  induction h generalizing first fuel with
  | nil s =>
    obtain ⟨fuel, rfl⟩ := Nat.exists_eq_add_of_lt hfuel
    unfold Json.members
    exact (Reads.nextKey_end first).map (.pure s)
  | @cons key text ms s s₁ s₂ hhead _ ih =>
    obtain ⟨fuel, rfl⟩ : ∃ n, fuel = n + 1 := ⟨fuel - 1, by omega⟩
    have hrest := ih false (Nat.lt_of_succ_lt_succ hfuel)
    have htail := hhead.bind hrest fun rest hr =>
      ends_listed (ms.map writeMember) (ends_of_begins_brace hr)
    have hkey : Reads (fun _ => True) (nextKey first) (lead first ++ writeString key) (some key) :=
      .nextKey first key
    rw [List.map_cons, listed, writeMember, List.append_assoc, ← List.append_assoc (lead first)]
    exact hkey.bind htail fun _ _ => trivial

theorem TakesIn.allMembers {member : σ → String → Reader σ} {ms : List (String × List Char)}
    {s s' : σ} (h : TakesIn member ms s s') :
    Reads (Begins '\x7d') (allMembers member s) (commas (ms.map writeMember)) s' := by
  have hne : ∀ t ∈ ms.map writeMember, t ≠ [] := by
    intro t ht
    obtain ⟨m, -, rfl⟩ := List.mem_map.1 ht
    exact (startsValue_writeMember m).ne_nil
  have hlength := length_le_length_listed hne true
  rw [List.length_map] at hlength
  rw [commas_eq_listed]
  unfold Json.allMembers
  apply Reads.remaining_bind
  intro n hn
  exact h.members true (Nat.lt_succ_of_le (Nat.le_trans hlength hn))

/-- The text is kept as this value, at any depth that leaves room for its levels. -/
def Spells (level : Nat) (text : List Char) (v : Kept) : Prop :=
  ∀ depth, level < depth → Reads Ends (readKept depth) text v

/-- The text is read as this value, and what is kept of it is the same value. -/
structure Denotes (read : Nat → Reader α) (ofKept : Kept → Except Cause α) (level : Nat)
    (text : List Char) (a : α) : Prop where
  starts : StartsValue text
  read : ∀ depth, level < depth → Reads Ends (read depth) text a
  kept : ∃ v, Spells level text v ∧ ofKept v = .ok a

def Format.Recovers (f : Format α) (level : Nat) : Prop :=
  ∀ a, Denotes f.read f.ofKept level (f.write a) a

theorem Spells.mono {level level' : Nat} {text : List Char} {v : Kept} (h : Spells level text v)
    (hle : level ≤ level') : Spells level' text v :=
  fun depth hdepth => h depth (Nat.lt_of_le_of_lt hle hdepth)

theorem Format.Recovers.mono {f : Format α} {level level' : Nat} (h : f.Recovers level)
    (hle : level ≤ level') : f.Recovers level' := by
  intro a
  obtain ⟨v, hv, hof⟩ := (h a).kept
  exact ⟨(h a).starts, fun depth hdepth => (h a).read depth (Nat.lt_of_le_of_lt hle hdepth),
    v, hv.mono hle, hof⟩

section Plain

variable {level : Nat} {c : Char} {text : List Char} {v : Kept}

theorem spells_plain (hspace : isSpace c = false) (hlist : c ≠ '[') (hobject : c ≠ '\x7b')
    (h : Reads Ends (plainValue c) (c :: text) v) : Spells level (c :: text) v := by
  intro depth hdepth
  obtain ⟨depth, rfl⟩ : ∃ d, depth = d + 1 := ⟨depth - 1, by omega⟩
  unfold readKept
  apply Reads.positioned
  apply Reads.peekValue_bind hspace
  rw [if_neg hlist, if_neg hobject]
  exact h

theorem spells_string (s : String) : Spells level (writeString s) (.string s) := by
  refine spells_plain rfl (by decide) (by decide) ?_
  exact Reads.eat_bind ((reads_stringBody s).map (.pure _))

theorem ne_of_isDigit {x : Char} (hc : c.isDigit = true) (hx : x.isDigit = false) : c ≠ x := by
  rintro rfl
  exact absurd hc (hx ▸ Bool.false_ne_true)

theorem opens_of_isDigit (hc : c.isDigit = true) : Opens c := by
  have hspace : isSpace c = false := by
    simp only [isSpace, Bool.or_eq_false_iff, decide_eq_false_iff_not]
    exact ⟨⟨⟨ne_of_isDigit hc rfl, ne_of_isDigit hc rfl⟩, ne_of_isDigit hc rfl⟩,
      ne_of_isDigit hc rfl⟩
  exact ⟨hspace, ne_of_isDigit hc rfl, ne_of_isDigit hc rfl⟩

theorem toDigits_cons (n : Nat) : ∃ c ds, Nat.toDigits 10 n = c :: ds ∧ c.isDigit = true := by
  obtain ⟨c, ds, hdigits, -⟩ := head_toDigits n
  have hc : c ∈ Nat.toDigits 10 n := hdigits ▸ List.mem_cons_self ..
  exact ⟨c, ds, hdigits, Nat.isDigit_of_mem_toDigits (by decide) (by decide) hc⟩

theorem spells_number {n : Nat} (hn : n ≤ Number.maxUnsigned) :
    Spells level (Nat.toDigits 10 n) (.number (.integer n)) := by
  obtain ⟨c, ds, hdigits, hc⟩ := toDigits_cons n
  have hread := reads_number hn
  rw [hdigits] at hread ⊢
  refine spells_plain (opens_of_isDigit hc).1 (ne_of_isDigit hc rfl) (ne_of_isDigit hc rfl) ?_
  unfold plainValue
  rw [if_neg (ne_of_isDigit hc rfl), if_neg (ne_of_isDigit hc rfl), if_neg (ne_of_isDigit hc rfl),
    if_pos (.inr hc)]
  exact hread.map (.pure _)

theorem spells_bool (b : Bool) : Spells level (Format.bool.write b) (.boolean b) := by
  cases b with
  | true =>
    refine spells_plain rfl (by decide) (by decide) ?_
    exact Reads.eat_bind ((Reads.word (P := Ends) "rue".toList).map (.pure _))
  | false =>
    refine spells_plain rfl (by decide) (by decide) ?_
    exact Reads.eat_bind ((Reads.word (P := Ends) "alse".toList).map (.pure _))

end Plain

section Brackets

variable {level : Nat}

theorem spells_list {ts : List (List Char)} {vs : List Kept}
    (h : List.Forall₂ (fun t v => StartsValue t ∧ Spells level t v) ts vs) :
    Spells (level + 1) ('[' :: commas ts ++ [']']) (.list vs) := by
  intro depth hdepth
  obtain ⟨depth, rfl⟩ : ∃ d, depth = d + 2 := ⟨depth - 2, by omega⟩
  have hread : List.Forall₂ (fun t v => StartsValue t ∧ Reads Ends (readKept (depth + 1)) t v) ts vs :=
    h.imp fun t v h => ⟨h.1, h.2 (depth + 1) (by omega)⟩
  have hlist : Reads (Begins ']') (keptList (readKept (depth + 1))) ('[' :: commas ts) (.list vs) := by
    rw [commas_eq_listed]
    exact Reads.eat_bind ((Reads.allElements hread true).map (.pure _))
  unfold readKept
  apply Reads.positioned
  apply Reads.peekValue_bind rfl
  rw [if_pos rfl, if_neg (Nat.succ_ne_zero depth)]
  exact hlist.closing .endList fun rest _ => begins_cons ']' rest

theorem takesIn_keepMember {value : Reader Kept} {ms : List (String × List Char)}
    {es : List (String × Kept)}
    (h : List.Forall₂ (fun m e => m.1 = e.1 ∧ Reads Ends value m.2 e.2) ms es)
    (before : List (String × Kept)) :
    TakesIn (keepMember value) ms before (es.reverse ++ before) := by
  induction h generalizing before with
  | nil => exact .nil before
  | @cons m e ms es hhead _ ih =>
    obtain ⟨key, text⟩ := m
    obtain ⟨_, v⟩ := e
    obtain ⟨rfl, hread⟩ := hhead
    rw [List.reverse_cons, List.append_assoc]
    refine .cons ?_ (ih ((key, v) :: before))
    exact Reads.colon_bind (hread.map (.pure _))

theorem spells_object {ms : List (String × List Char)} {es : List (String × Kept)}
    (h : List.Forall₂ (fun m e => m.1 = e.1 ∧ Spells level m.2 e.2) ms es) :
    Spells (level + 1) (writeMembers ms) (.object es) := by
  intro depth hdepth
  obtain ⟨depth, rfl⟩ : ∃ d, depth = d + 2 := ⟨depth - 2, by omega⟩
  have hread : List.Forall₂ (fun m e => m.1 = e.1 ∧ Reads Ends (readKept (depth + 1)) m.2 e.2) ms es :=
    h.imp fun m e h => ⟨h.1, h.2 (depth + 1) (by omega)⟩
  have hmembers := takesIn_keepMember hread []
  have hobject : Reads (Begins '\x7d') (keptObject (readKept (depth + 1)))
      ('\x7b' :: commas (ms.map writeMember)) (.object es) := by
    refine Reads.eat_bind (hmembers.allMembers.map ?_)
    rw [List.append_nil, List.reverse_reverse]
    exact .pure _
  unfold readKept
  apply Reads.positioned
  apply Reads.peekValue_bind rfl
  rw [if_neg (by decide), if_pos rfl, if_neg (Nat.succ_ne_zero depth)]
  exact hobject.closing .endObject fun rest _ => begins_cons '\x7d' rest

end Brackets

end Storefront.Json
