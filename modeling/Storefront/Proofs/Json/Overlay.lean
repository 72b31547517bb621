import Mathlib.Data.List.Nodup
import Storefront.Proofs.Json.Recovery
import Storefront.Proofs.Json.Slots

/-! Objects that are laid over a default: what a known member holds takes the place of the part that
it names, and nothing else does. -/

namespace Storefront.Json

open Reader Format Record

section Texts

/-- The text of a string, in whatever way its characters are spelled. -/
def HoldsString (t : List Char) (s : String) : Prop :=
  ∃ body, t = '"' :: (body ++ ['"']) ∧ Spelled body s.toList

def HoldsPath (t : List Char) (p : Path) : Prop :=
  HoldsString t p.text

def HoldsColor (t : List Char) (c : Color) : Prop :=
  ∃ s, HoldsString t s ∧ Color.parse s = .ok c

def HoldsNumber (t : List Char) (n : UInt32) : Prop :=
  t = Nat.toDigits 10 n.toNat

def HoldsList {α : Type} (Holds : List Char → α → Prop) (t : List Char) (as : List α) : Prop :=
  ∃ items blank, t = listText items blank ∧ IsGap blank ∧ AreItems items ∧
    List.Forall₂ (fun i a => Holds i.value a) items as

theorem Spelled.isStringBody {body cs : List Char} (h : Spelled body cs) : IsStringBody body := by
  induction h with
  | nil => exact .nil
  | plain hquote hbackslash hcontrol _ ih => exact .plain hquote hbackslash hcontrol ih
  | letter hx _ ih => exact .letter hx ih
  | code hn _ _ _ ih => exact .code hn ih
  | pair hn hm _ _ _ ih => exact .code hn (.code hm ih)

theorem spelled_self {cs : List Char}
    (hcs : (cs.all fun c => c != '"' && c != '\\' && !isControl c) = true) : Spelled cs cs := by
  induction cs with
  | nil => exact .nil
  | cons c cs ih =>
    simp only [List.all_cons, Bool.and_eq_true, bne_iff_ne, Bool.not_eq_true'] at hcs
    obtain ⟨⟨⟨hquote, hbackslash⟩, hcontrol⟩, hcs⟩ := hcs
    exact .plain hquote hbackslash hcontrol (ih hcs)

variable {α : Type} {level depth : Nat}

def Format.ReadsHeld (f : Format α) (level : Nat) (Holds : List Char → α → Prop) : Prop :=
  ∀ depth t a, level < depth → Holds t a → Reads Ends (f.read depth) t a

theorem readsHeld_string : string.ReadsHeld level HoldsString := by
  rintro depth _ s - ⟨body, rfl, hbody⟩
  exact (means_readString hbody.isStringBody).reads s ⟨s, hbody, rfl⟩

theorem readsHeld_path : path.ReadsHeld level HoldsPath := by
  rintro depth _ p - ⟨body, rfl, hbody⟩
  exact (means_readString hbody.isStringBody).reads p ⟨p.text, hbody, rfl⟩

theorem readsHeld_color : color.ReadsHeld level HoldsColor := by
  rintro depth t c hdepth ⟨s, hs, hc⟩
  have hcolor : colorOf s = .ok c := by
    rw [colorOf, hc]
    rfl
  exact (readsHeld_string depth t s hdepth hs).map (.ofExcept hcolor)

theorem readsHeld_uint32 : uint32.ReadsHeld level HoldsNumber := by
  rintro depth _ n hdepth rfl
  have h := (recovers_uint32 n).read depth hdepth
  rwa [show uint32.write n = Nat.toDigits 10 n.toNat from Nat.toList_repr] at h

theorem readsHeld_list {item : Format α} {Holds : List Char → α → Prop} (hblind : item.Blind)
    (hitem : item.ReadsHeld level Holds) : (list item).ReadsHeld (level + 1) (HoldsList Holds) := by
  rintro depth _ as hdepth ⟨items, blank, rfl, hblank, hitems, has⟩
  obtain ⟨d, rfl⟩ : ∃ d, depth = d + 2 := ⟨depth - 2, by omega⟩
  refine ((reading_list hblind).list _ items blank hblank hitems).reads as ⟨d, rfl, ?_⟩
  exact has.imp fun i a ha => hitem (d + 1) _ a (by omega) ha

end Texts

def Member.Named (m : Member) (name : String) : Prop :=
  Spelled m.key name.toList

theorem Member.Named.unique {m : Member} {name name' : String} (h : m.Named name) (h' : m.Named name') :
    name = name' := by
  have hread (s : String) (hs : m.Named s) : Reads Ends stringBody (m.key ++ ['"']) s :=
    (means_stringBody h.isStringBody).reads s hs
  exact (hread name h).unique (hread name' h') ends_nil

/-- A member that is known: its name, the values that texts hold for it, and the part that it stands
for. -/
structure Known (S : Type) where
  Value : Type
  name : String
  Holds : List Char → Value → Prop
  part : S → Value

variable {P S : Type}

/-- The members of an object, all of which have names. Those that are known occur once at most, with a
value of their type. -/
structure WellTyped (known : List (Known S)) (ms : List Member) : Prop where
  members : AreMembers ms
  named : ∀ m ∈ ms, ∃ name, m.Named name
  once : ms.Pairwise fun m m' => ∀ k ∈ known, m.Named k.name → ¬m'.Named k.name
  typed : ∀ k ∈ known, ∀ m ∈ ms, m.Named k.name → ∃ a, k.Holds m.item.value a

/-- The default but for the parts that members name. -/
def Overlays (known : List (Known S)) (dflt : S) (ms : List Member) (s : S) : Prop :=
  ∀ k ∈ known, (∃ m ∈ ms, m.Named k.name ∧ k.Holds m.item.value (k.part s)) ∨
    (∀ m ∈ ms, ¬m.Named k.name) ∧ k.part s = k.part dflt

def HoldsOverlay (known : List (Known S)) (dflt : S) (t : List Char) (s : S) : Prop :=
  ∃ ms blank, t = objectText ms blank ∧ IsGap blank ∧ WellTyped known ms ∧ Overlays known dflt ms s

theorem WellTyped.exists_part {known : List (Known S)} {ms : List Member} (h : WellTyped known ms) (dflt : S) :
    ∀ k ∈ known, ∃ a, (∃ m ∈ ms, m.Named k.name ∧ k.Holds m.item.value a) ∨
      (∀ m ∈ ms, ¬m.Named k.name) ∧ a = k.part dflt := by
  intro k hk
  by_cases hsome : ∃ m ∈ ms, m.Named k.name
  · obtain ⟨m, hm, hname⟩ := hsome
    obtain ⟨a, ha⟩ := h.typed k hk m hm hname
    exact ⟨a, .inl ⟨m, hm, hname, ha⟩⟩
  · exact ⟨k.part dflt, .inr ⟨fun m hm hname => hsome ⟨m, hm, hname⟩, rfl⟩⟩

structure KnownPlace (P S : Type) where
  known : Known S
  format : Format known.Value
  get : P → Option known.Value
  set : known.Value → P → P

def KnownPlace.slot (place : KnownPlace P S) : Slot P :=
  ⟨place.known.Value, place.known.name, place.format, place.get, place.set⟩

/-- Behind these members the places that they name hold the parts of `s`, and the others are vacant. -/
structure Laid (places : List (KnownPlace P S)) (s : S) (ms : List Member) (p : P) : Prop where
  filled : ∀ place ∈ places, ∀ m ∈ ms, m.Named place.known.name → place.get p = some (place.known.part s)
  vacant : ∀ place ∈ places, (∀ m ∈ ms, ¬m.Named place.known.name) → place.get p = none

section Laying

variable {places : List (KnownPlace P S)} {ms before after : List Member} {m : Member} {s dflt : S} {p : P}
  {depth : Nat}

theorem Overlays.holds {known : List (Known S)} (h : Overlays known dflt ms s) (hms : WellTyped known ms)
    {k : Known S} (hk : k ∈ known) (hm : m ∈ ms) (hname : m.Named k.name) :
    k.Holds m.item.value (k.part s) := by
  obtain ⟨m', hm', hname', hholds⟩ | ⟨hnone, -⟩ := h k hk
  · by_cases heq : m = m'
    · rwa [heq]
    · have hsymm : Std.Symm fun m m' : Member => ∀ k ∈ known, m.Named k.name → ¬m'.Named k.name :=
        ⟨fun _ _ h k hk hname hname' => h k hk hname' hname⟩
      exact absurd hname' (hms.once.forall hm hm' heq k hk hname)
  · exact absurd hname (hnone m hm)

theorem find?_slot (places : List (KnownPlace P S)) (name : String) :
    (places.map KnownPlace.slot).find? (·.name == name) =
      (places.find? (·.known.name == name)).map KnownPlace.slot := by
  rw [List.find?_map]
  rfl

theorem Laid.unnamed (h : Laid places s before p)
    (hother : ∀ place ∈ places, ¬m.Named place.known.name) : Laid places s (before ++ [m]) p where
  filled place hplace m' hm' hknown := by
    rcases List.mem_append.1 hm' with hm' | hm'
    · exact h.filled place hplace m' hm' hknown
    · rw [List.mem_singleton.1 hm'] at hknown
      exact absurd hknown (hother place hplace)
  vacant place hplace hnone :=
    h.vacant place hplace fun m' hm' => hnone m' (List.mem_append_left _ hm')

theorem Laid.named (h : Laid places s before p) (hslots : Slot.AreLawful (places.map KnownPlace.slot))
    (hnames : (places.map (·.known.name)).Nodup) {place : KnownPlace P S} (hplace : place ∈ places)
    (hname : m.Named place.known.name) :
    Laid places s (before ++ [m]) (place.set (place.known.part s) p) := by
  have hself : place.get (place.set (place.known.part s) p) = some (place.known.part s) :=
    hslots.filled place.slot (List.mem_map_of_mem hplace) _ p
  have hothers {other : KnownPlace P S} (hmem : other ∈ places) (hne : other ≠ place) :
      other.get (place.set (place.known.part s) p) = other.get p := by
    have hslot : other.slot ≠ place.slot := fun heq =>
      hne (List.inj_on_of_nodup_map hnames hmem hplace (congrArg Slot.name heq))
    exact (hslots.apart_of_mem (List.mem_map_of_mem hmem) (List.mem_map_of_mem hplace) hslot).get _ p
  constructor
  · intro other hmem m' hm' hknown
    by_cases heq : other = place
    · rw [heq]
      exact hself
    · rw [hothers hmem heq]
      rcases List.mem_append.1 hm' with hm' | hm'
      · exact h.filled other hmem m' hm' hknown
      · rw [List.mem_singleton.1 hm'] at hknown
        exact absurd (List.inj_on_of_nodup_map hnames hmem hplace (hknown.unique hname)) heq
  · intro other hmem hnone
    have hne : other ≠ place := by
      rintro rfl
      exact hnone m (List.mem_append_right _ (List.mem_singleton_self m)) hname
    rw [hothers hmem hne]
    exact h.vacant other hmem fun m' hm' => hnone m' (List.mem_append_left _ hm')

theorem Laid.step (hslots : Slot.AreLawful (places.map KnownPlace.slot))
    (hnames : (places.map (·.known.name)).Nodup)
    (hread : ∀ place ∈ places, m.Named place.known.name →
      Reads Ends (place.format.read depth) m.item.value (place.known.part s))
    (hnamed : ∃ name, m.Named name)
    (hfresh : ∀ place ∈ places, m.Named place.known.name → ∀ m' ∈ before, ¬m'.Named place.known.name)
    (h : Laid places s before p) :
    ∃ p', m.Fills (places.map KnownPlace.slot) depth p p' ∧ Laid places s (before ++ [m]) p' := by
  obtain ⟨name, hname⟩ := hnamed
  have hslot := find?_slot places name
  cases hfind : places.find? (·.known.name == name) with
  | none =>
    rw [hfind] at hslot
    refine ⟨p, ⟨name, hname, .unknown hslot⟩, h.unnamed fun place hplace hknown => ?_⟩
    have hother := List.find?_eq_none.1 hfind place hplace
    rw [hknown.unique hname] at hother
    exact hother (beq_self_eq_true name)
  | some place =>
    rw [hfind] at hslot
    have hplace := List.mem_of_find?_eq_some hfind
    have hplaced : m.Named place.known.name := by
      have h := List.find?_some hfind
      rwa [eq_of_beq h]
    have hvacant := h.vacant place hplace (hfresh place hplace hplaced)
    exact ⟨place.set (place.known.part s) p,
      ⟨name, hname, .known (s := place.slot) hslot hvacant (hread place hplace hplaced)⟩,
      h.named hslots hnames hplace hplaced⟩

theorem Laid.through (hslots : Slot.AreLawful (places.map KnownPlace.slot))
    (hnames : (places.map (·.known.name)).Nodup)
    (hread : ∀ place ∈ places, ∀ m ∈ after, m.Named place.known.name →
      Reads Ends (place.format.read depth) m.item.value (place.known.part s))
    (hnamed : ∀ m ∈ after, ∃ name, m.Named name)
    (honce : (before ++ after).Pairwise fun m m' => ∀ place ∈ places, m.Named place.known.name →
      ¬m'.Named place.known.name)
    (h : Laid places s before p) :
    ∃ p', Through (Member.Fills (places.map KnownPlace.slot) depth) after p p' ∧
      Laid places s (before ++ after) p' := by
  -- Those before are carried along: what they name must be vacant no longer, and all else still be.
  induction after generalizing before p with
  | nil => exact ⟨p, .nil p, by rwa [List.append_nil]⟩
  | cons m after ih =>
    have hfresh : ∀ place ∈ places, m.Named place.known.name →
        ∀ m' ∈ before, ¬m'.Named place.known.name := by
      intro place hplace hname m' hm' hname'
      exact (List.pairwise_append.1 honce).2.2 m' hm' m (List.mem_cons_self ..) place hplace hname' hname
    obtain ⟨p₁, hfills, hlaid⟩ := h.step hslots hnames
      (fun place hplace => hread place hplace m (List.mem_cons_self ..))
      (hnamed m (List.mem_cons_self ..)) hfresh
    rw [List.append_cons] at honce ⊢
    obtain ⟨p', hthrough, hlaid'⟩ := ih
      (fun place hplace m' hm' => hread place hplace m' (List.mem_cons_of_mem _ hm'))
      (fun m' hm' => hnamed m' (List.mem_cons_of_mem _ hm')) honce hlaid
    exact ⟨p', .cons hfills hthrough, hlaid'⟩

theorem readsHeld_overlay {r : Record P S} {level : Nat} (hlawful : r.Lawful (places.map KnownPlace.slot))
    (hnames : (places.map (·.known.name)).Nodup)
    (hblank : ∀ place ∈ places, place.get r.blank = none)
    (hheld : ∀ place ∈ places, place.format.ReadsHeld level place.known.Holds)
    (hfinish : ∀ p s, (∀ place ∈ places, (place.get p).getD (place.known.part dflt) = place.known.part s) →
      r.finish p = .ok s) :
    r.format.ReadsHeld (level + 1) (HoldsOverlay (places.map KnownPlace.known) dflt) := by
  rintro depth _ s hdepth ⟨ms, blank, rfl, hgap, hms, hover⟩
  obtain ⟨d, rfl⟩ : ∃ d, depth = d + 2 := ⟨depth - 2, by omega⟩
  have hread : ∀ place ∈ places, ∀ m ∈ ms, m.Named place.known.name →
      Reads Ends (place.format.read (d + 1)) m.item.value (place.known.part s) := by
    intro place hplace m hm hname
    exact hheld place hplace (d + 1) _ _ (by omega)
      (hover.holds hms (List.mem_map_of_mem hplace) hm hname)
  have hstart : Laid places s [] r.blank := ⟨by simp, fun place hplace _ => hblank place hplace⟩
  obtain ⟨p, hthrough, hlaid⟩ := hstart.through hlawful.slots hnames hread hms.named
    (by simpa using hms.once)
  refine ((reading_record hlawful).object _ ms blank hgap hms.members).reads s
    ⟨d, rfl, p, hthrough, hfinish p s fun place hplace => ?_⟩
  obtain ⟨m, hm, hname, -⟩ | ⟨hnone, hpart⟩ := hover place.known (List.mem_map_of_mem hplace)
  · rw [hlaid.filled place hplace m hm hname]
    rfl
  · rw [hlaid.vacant place hplace hnone, hpart]
    rfl

end Laying

end Storefront.Json
