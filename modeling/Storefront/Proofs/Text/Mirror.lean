import Storefront.Text.CaseRun

/-! Tables of letter case read backwards: what a table does to the characters of a run, and to the
images of a run of another table. -/

namespace Storefront

namespace CaseRun

def back (r : CaseRun) : CaseRun :=
  ⟨r.image, r.image + (r.last - r.first), r.step, r.first⟩

/-- The runs overlap and do not alternate, so that a character may be in both. -/
def meets (a b : CaseRun) : Bool :=
  b.first.ble a.last && a.first.ble b.last &&
    !(a.step == 2 && b.step == 2 && (a.first + b.first) % 2 == 1)

def Within (a b : CaseRun) : Prop :=
  b.first ≤ a.first ∧ a.last ≤ b.last ∧ b.step ∣ a.first - b.first ∧
    (b.step ∣ a.step ∨ a.first = a.last) ∧ b.image + (a.first - b.first) = a.image

instance (a b : CaseRun) : Decidable (a.Within b) :=
  inferInstanceAs (Decidable (_ ∧ _))

def HasValidImages (r : CaseRun) : Prop :=
  r.image + (r.last - r.first) < 0xD800 ∨
    0xDFFF < r.image ∧ r.image + (r.last - r.first) < 0x110000

instance (r : CaseRun) : Decidable r.HasValidImages :=
  inferInstanceAs (Decidable (_ ∨ _))

/-- A table takes the images of a run back to its characters, and leaves the characters alone. -/
def MirroredBy (r : CaseRun) (runs : List CaseRun) : Prop :=
  r.HasValidImages ∧ runs.any r.meets = false ∧
    (runs.find? r.back.meets).any (fun l => decide (r.back.Within l)) = true

instance (r : CaseRun) (runs : List CaseRun) : Decidable (r.MirroredBy runs) :=
  inferInstanceAs (Decidable (_ ∧ _))

def all (r : CaseRun) (p : Char → Char → Bool) : Bool :=
  (List.range (r.last + 1 - r.first)).all fun k =>
    k % r.step != 0 || p (Char.ofNat (r.first + k)) (Char.ofNat (r.image + k))

section

variable {a b r : CaseRun} {runs : List CaseRun} {c d : Char}

theorem image?_eq_some_iff : r.image? c = some d ↔
    (r.first ≤ c.toNat ∧ c.toNat ≤ r.last ∧ (c.toNat - r.first) % r.step = 0) ∧
      Char.ofNat (r.image + (c.toNat - r.first)) = d := by
  rw [image?, Option.ite_none_right_eq_some, Option.some.injEq]

theorem meets_of_image? {d' : Char} (ha : a.image? c = some d) (hb : b.image? c = some d') :
    a.meets b = true := by
  obtain ⟨⟨h1, h2, h3⟩, -⟩ := image?_eq_some_iff.1 ha
  obtain ⟨⟨h4, h5, h6⟩, -⟩ := image?_eq_some_iff.1 hb
  have hleft : b.first.ble a.last = true := Nat.ble_eq_true_of_le (by omega)
  have hright : a.first.ble b.last = true := Nat.ble_eq_true_of_le (by omega)
  -- Runs that alternate have their characters at distances of different parity.
  have hsteps : ¬((a.step = 2 ∧ b.step = 2) ∧ (a.first + b.first) % 2 = 1) := by
    rintro ⟨⟨hstep, hstep'⟩, hparity⟩
    rw [hstep] at h3
    rw [hstep'] at h6
    omega
  rw [meets, hleft, hright, Bool.true_and, Bool.true_and, Bool.not_eq_true', ← Bool.not_eq_true,
    Bool.and_eq_true, Bool.and_eq_true, beq_iff_eq, beq_iff_eq, beq_iff_eq]
  exact hsteps

theorem image?_eq_none_of_not_meets (ha : a.image? c = some d) (h : a.meets b = false) :
    b.image? c = none := by
  rw [Option.eq_none_iff_forall_ne_some]
  intro d' hb
  rw [meets_of_image? ha hb] at h
  contradiction

theorem Within.image?_eq_some (h : a.Within b) (ha : a.image? c = some d) : b.image? c = some d := by
  obtain ⟨⟨h1, h2, h3⟩, rfl⟩ := image?_eq_some_iff.1 ha
  obtain ⟨hfirst, hlast, hoffset, hstep, himage⟩ := h
  have hdistance : c.toNat - b.first = c.toNat - a.first + (a.first - b.first) := by omega
  have hback : b.step ∣ c.toNat - a.first := by
    rcases hstep with h | h
    · exact Nat.dvd_trans h (Nat.dvd_of_mod_eq_zero h3)
    · have hzero : c.toNat - a.first = 0 := by omega
      exact hzero ▸ Nat.dvd_zero _
  refine image?_eq_some_iff.2 ⟨⟨by omega, by omega, ?_⟩, ?_⟩
  · rw [hdistance]
    exact Nat.mod_eq_zero_of_dvd (Nat.dvd_add hback hoffset)
  · congr 1
    omega

theorem HasValidImages.toNat_image (h : r.HasValidImages) (hc : r.image? c = some d) :
    d.toNat = r.image + (c.toNat - r.first) := by
  obtain ⟨⟨h1, h2, -⟩, rfl⟩ := image?_eq_some_iff.1 hc
  have hvalid : (r.image + (c.toNat - r.first)).isValidChar := by
    rcases h with h | h
    · exact .inl (by omega)
    · exact .inr (by omega)
  rw [Char.ofNat, dif_pos hvalid]
  rfl

theorem HasValidImages.image?_back (h : r.HasValidImages) (hc : r.image? c = some d) :
    r.back.image? d = some c := by
  have hd := h.toNat_image hc
  obtain ⟨⟨h1, h2, h3⟩, -⟩ := image?_eq_some_iff.1 hc
  have hdistance : d.toNat - r.image = c.toNat - r.first := by omega
  refine image?_eq_some_iff.2 ⟨⟨?_, ?_, ?_⟩, ?_⟩
  · show r.image ≤ d.toNat
    omega
  · show d.toNat ≤ r.image + (r.last - r.first)
    omega
  · show (d.toNat - r.image) % r.step = 0
    rw [hdistance, h3]
  · show Char.ofNat (r.first + (d.toNat - r.image)) = c
    rw [hdistance, Nat.add_sub_cancel' h1, Char.ofNat_toNat]

theorem MirroredBy.partner_eq (h : r.MirroredBy runs) (hc : r.image? c = some d) :
    partner runs c = c := by
  obtain ⟨-, hmeets, -⟩ := h
  have hnone : runs.findSome? (·.image? c) = none := by
    rw [List.findSome?_eq_none_iff]
    intro l hl
    exact image?_eq_none_of_not_meets hc (by simpa using List.any_eq_false.1 hmeets l hl)
  rw [partner, hnone, Option.getD_none]

theorem MirroredBy.partner_image (h : r.MirroredBy runs) (hc : r.image? c = some d) :
    partner runs d = c := by
  obtain ⟨hvalid, -, hback⟩ := h
  have hd := hvalid.image?_back hc
  obtain ⟨l, hl, hwithin⟩ := (Option.any_eq_true _ _).1 hback
  obtain ⟨-, before, after, rfl, hbefore⟩ := List.find?_eq_some_iff_append.1 hl
  have hnone : before.findSome? (·.image? d) = none := by
    rw [List.findSome?_eq_none_iff]
    intro l' hl'
    exact image?_eq_none_of_not_meets hd (by simpa using hbefore l' hl')
  rw [partner, List.findSome?_append, hnone, Option.none_or, List.findSome?_cons,
    (of_decide_eq_true hwithin).image?_eq_some hd]
  rfl

theorem holds_of_all {p : Char → Char → Bool} (h : r.all p = true) (hc : r.image? c = some d) :
    p c d = true := by
  obtain ⟨⟨h1, h2, h3⟩, rfl⟩ := image?_eq_some_iff.1 hc
  have hk := List.all_eq_true.1 h (c.toNat - r.first) (List.mem_range.2 (by omega))
  rw [h3, Nat.add_sub_cancel' h1, Char.ofNat_toNat] at hk
  simpa using hk

theorem partner_cases (runs : List CaseRun) (c : Char) :
    partner runs c = c ∨ ∃ r ∈ runs, r.image? c = some (partner runs c) := by
  rcases hfind : runs.findSome? (·.image? c) with - | d
  · left
    rw [partner, hfind, Option.getD_none]
  · right
    obtain ⟨r, hr, hd⟩ := List.exists_of_findSome?_eq_some hfind
    exact ⟨r, hr, by rw [partner, hfind, Option.getD_some, hd]⟩

end
end CaseRun
end Storefront
