import Storefront.Proofs.Json.Denoting

/-! What formats write they read back: those of single values, and those of lists and of records
whose parts do. -/

namespace Storefront.Json

open Reader Format Record

variable {α P : Type} {level : Nat}

section Values

variable {expected s : String} {value : String → Except Cause α} {a : α}

theorem reads_readString (h : value s = .ok a) :
    Reads Ends (readString expected value) (writeString s) a := by
  unfold readString
  apply Reads.peekValue_bind rfl
  rw [if_pos rfl]
  exact .positioned (Reads.eat_bind ((reads_stringBody s).map (.ofExcept h)))

theorem startsValue_writeString (s : String) : StartsValue (writeString s) :=
  ⟨'"', _, rfl, rfl, by decide, by decide⟩

theorem recovers_ofString {text : α → String} (h : ∀ a, value (text a) = .ok a) :
    (ofString expected value text).Recovers level := fun a => {
  starts := startsValue_writeString (text a)
  read := fun _ _ => reads_readString (h a)
  kept := ⟨_, spells_string (text a), h a⟩ }

theorem recovers_string : string.Recovers level := recovers_ofString fun _ => rfl

theorem recovers_path : path.Recovers level := recovers_ofString fun _ => rfl

theorem uint32Of_toNat (n : UInt32) : uint32Of (.integer n.toNat) = .ok n := by
  have hlt := n.toNat_lt
  have hbounds : 0 ≤ (n.toNat : Int) ∧ (n.toNat : Int) < 4294967296 := by omega
  unfold uint32Of
  dsimp only
  rw [if_pos hbounds, Int.toNat_natCast, Nat.toUInt32_eq, UInt32.ofNat_toNat]

theorem recovers_uint32 : uint32.Recovers level := by
  intro n
  have hmax : n.toNat ≤ Number.maxUnsigned := by
    have hlt := n.toNat_lt
    unfold Number.maxUnsigned
    omega
  have hspells : Spells level (Nat.toDigits 10 n.toNat) (.number (.integer n.toNat)) :=
    spells_number hmax
  have hnumber := reads_number hmax
  have hwrite : uint32.write n = Nat.toDigits 10 n.toNat := Nat.toList_repr
  obtain ⟨c, ds, hdigits, hc⟩ := toDigits_cons n.toNat
  rw [hwrite]
  have hkept : uint32.ofKept (.number (.integer n.toNat)) = .ok n := by
    unfold uint32
    dsimp only
    exact uint32Of_toNat n
  refine ⟨⟨c, ds, hdigits, opens_of_isDigit hc⟩, fun depth _ => ?_, _, hspells, hkept⟩
  rw [hdigits] at hnumber ⊢
  refine Reads.peekValue_bind (opens_of_isDigit hc).1 ?_
  rw [if_pos (.inr hc)]
  exact .positioned (hnumber.map (.ofExcept (uint32Of_toNat n)))

theorem write_bool (b : Bool) :
    bool.write b = if b then 't' :: "rue".toList else 'f' :: "alse".toList := by
  cases b <;> rfl

theorem recovers_bool : bool.Recovers level := by
  intro b
  refine ⟨?_, fun depth _ => ?_, _, spells_bool b, rfl⟩
  · rw [write_bool]
    cases b with
    | true => exact ⟨'t', _, rfl, rfl, by decide, by decide⟩
    | false => exact ⟨'f', _, rfl, rfl, by decide, by decide⟩
  · rw [write_bool]
    cases b with
    | true =>
      refine Reads.peekValue_bind rfl ?_
      rw [if_pos rfl]
      exact Reads.eat_bind ((Reads.word "rue".toList).map (.pure _))
    | false =>
      refine Reads.peekValue_bind rfl ?_
      rw [if_neg (by decide), if_pos rfl]
      exact Reads.eat_bind ((Reads.word "alse".toList).map (.pure _))

end Values

section Lists

variable {item : Format α}

theorem kept_items (h : item.Recovers level) (as : List α) :
    ∃ vs, List.Forall₂ (fun t v => StartsValue t ∧ Spells level t v) (as.map item.write) vs ∧
      vs.mapM item.ofKept = .ok as := by
  induction as with
  | nil => exact ⟨[], .nil, rfl⟩
  | cons a as ih =>
    obtain ⟨vs, hvs, hof⟩ := ih
    obtain ⟨v, hv, hofv⟩ := (h a).kept
    refine ⟨v :: vs, .cons ⟨(h a).starts, hv⟩ hvs, ?_⟩
    rw [List.mapM_cons, hofv, hof]
    rfl

theorem recovers_list (h : item.Recovers level) : (list item).Recovers (level + 1) := by
  intro as
  obtain ⟨vs, hvs, hof⟩ := kept_items h as
  refine ⟨⟨'[', _, rfl, rfl, by decide, by decide⟩, fun depth hdepth => ?_, _, spells_list hvs, hof⟩
  obtain ⟨depth, rfl⟩ : ∃ d, depth = d + 2 := ⟨depth - 2, by omega⟩
  have hread : List.Forall₂ (fun t a => StartsValue t ∧ Reads Ends (item.read (depth + 1)) t a)
      (as.map item.write) as := by
    rw [List.forall₂_map_left_iff, List.forall₂_same]
    intro a _
    exact ⟨(h a).starts, (h a).read (depth + 1) (by omega)⟩
  have hitems := Reads.allElements hread true
  rw [← commas_eq_listed] at hitems
  refine Reads.peekValue_bind rfl ?_
  rw [if_pos rfl]
  exact .positioned (.bracketed hitems .endList fun rest _ => begins_cons ']' rest)

end Lists

section Records

theorem Denotes.field {format : Format α} {text : List Char} {a : α} {name : String}
    {get : P → Option α} {set : α → P → P} (h : Denotes format.read format.ofKept level text a) (p : P) :
    Denotes (fun depth => (Field.of name format get set).read depth p)
      (fun v => (Field.of name format get set).ofKept v p) level text (set a p) := by
  obtain ⟨v, hv, hof⟩ := h.kept
  refine ⟨h.starts, fun depth hdepth => (h.read depth hdepth).map (.pure _), v, hv, ?_⟩
  show (do return set (← format.ofKept v) p) = Except.ok (set a p)
  rw [hof]
  rfl

/-- Texts of all fields, each of which was not set before it, lead from `p` to `p'`. -/
inductive Fills (level : Nat) : List (Field P) → List (String × List Char) → P → P → Prop
  | nil (p : P) : Fills level [] [] p p
  | cons {f : Field P} {fs : List (Field P)} {text : List Char} {ms : List (String × List Char)}
      {p p₁ p₂ : P} (unset : f.isSet p = false)
      (head : Denotes (fun depth => f.read depth p) (fun v => f.ofKept v p) level text p₁)
      (tail : Fills level fs ms p₁ p₂) : Fills level (f :: fs) ((f.name, text) :: ms) p p₂

def Record.Finds (r : Record P α) (f : Field P) : Prop :=
  r.fields.find? (·.name == f.name) = some f

theorem Record.finds_of_mem {r : Record P α} (hnames : (r.fields.map (·.name)).Nodup) {f : Field P}
    (hf : f ∈ r.fields) : r.Finds f := by
  unfold Record.Finds
  generalize r.fields = fs at hnames hf
  induction fs with
  | nil => contradiction
  | cons g fs ih =>
    rw [List.map_cons, List.nodup_cons] at hnames
    rcases List.mem_cons.1 hf with rfl | hf
    · exact List.find?_cons_of_pos (beq_self_eq_true _)
    · have hne : g.name ≠ f.name := by
        intro h
        exact hnames.1 (h ▸ List.mem_map_of_mem hf)
      rw [List.find?_cons_of_neg (by simpa using hne)]
      exact ih hnames.2 hf

variable {r : Record P α} {fs : List (Field P)} {ms : List (String × List Char)} {p p' : P}

theorem Fills.takesIn (h : Fills level fs ms p p') (hfinds : ∀ f ∈ fs, r.Finds f) {depth : Nat}
    (hdepth : level < depth) : TakesIn (r.readMember depth) ms p p' := by
  induction h with
  | nil p => exact .nil p
  | @cons f fs text ms p p₁ p₂ hunset hhead _ ih =>
    refine .cons ?_ (ih fun f hf => hfinds f (List.mem_cons_of_mem _ hf))
    unfold readMember
    simp only [show _ = some f from hfinds f (List.mem_cons_self ..), hunset, Bool.false_eq_true,
      if_false]
    exact Reads.colon_bind (hhead.read depth hdepth)

theorem Fills.map_fst (h : Fills level fs ms p p') : ms.map Prod.fst = fs.map (·.name) := by
  induction h with
  | nil p => rfl
  | cons _ _ _ ih => rw [List.map_cons, List.map_cons, ih]

theorem Fills.kept (h : Fills level fs ms p p') (hfinds : ∀ f ∈ fs, r.Finds f) :
    ∃ es, List.Forall₂ (fun m e => m.1 = e.1 ∧ Spells level m.2 e.2) ms es ∧
      es.foldlM r.keptMember p = .ok p' := by
  induction h with
  | nil p => exact ⟨[], .nil, rfl⟩
  | @cons f fs text ms p p₁ p₂ hunset hhead _ ih =>
    obtain ⟨es, hes, hfold⟩ := ih fun f hf => hfinds f (List.mem_cons_of_mem _ hf)
    obtain ⟨v, hv, hof⟩ := hhead.kept
    refine ⟨(f.name, v) :: es, .cons ⟨rfl, hv⟩ hes, ?_⟩
    have hstep : r.keptMember p (f.name, v) = .ok p₁ := by
      unfold keptMember
      simp only [show _ = some f from hfinds f (List.mem_cons_self ..), hunset, Bool.false_eq_true,
        if_false, hof]
    rw [List.foldlM_cons, hstep]
    exact hfold

theorem Record.ofKept_object {a : α} {es : List (String × Kept)}
    (hfold : es.foldlM r.keptMember r.blank = .ok p) (hfinish : r.finish p = .ok a) :
    r.ofKept (.object es) = .ok a := by
  show (do r.finish (← es.foldlM r.keptMember r.blank)) = Except.ok a
  rw [hfold]
  exact hfinish

theorem Record.denotes (hnames : (r.fields.map (·.name)).Nodup)
    (hfills : Fills level r.fields ms r.blank p) {a : α} (hfinish : r.finish p = .ok a) :
    Denotes r.read r.ofKept (level + 1) (writeMembers ms) a := by
  have hfinds : ∀ f ∈ r.fields, r.Finds f := fun f hf => finds_of_mem hnames hf
  obtain ⟨es, hes, hfold⟩ := hfills.kept hfinds
  refine ⟨⟨'\x7b', _, rfl, rfl, by decide, by decide⟩, fun depth hdepth => ?_,
    _, spells_object hes, ofKept_object hfold hfinish⟩
  obtain ⟨depth, rfl⟩ : ∃ d, depth = d + 2 := ⟨depth - 2, by omega⟩
  have hmembers := (hfills.takesIn hfinds (show level < depth + 1 by omega)).allMembers
  have hbody : Reads (Begins '\x7d') (r.readBody '\x7b' (depth + 1)) (commas (ms.map writeMember)) a := by
    unfold readBody
    rw [if_neg (by decide)]
    exact hmembers.map (.ofExcept hfinish)
  unfold Record.read
  refine Reads.peekValue_bind rfl ?_
  rw [if_neg (by decide), if_pos rfl]
  exact .positioned (.bracketed hbody .endObject fun rest _ => begins_cons '\x7d' rest)

end Records

end Storefront.Json
