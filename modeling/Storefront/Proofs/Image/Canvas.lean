import Mathlib.Logic.ExistsUnique
import Storefront.Image.Normalize
import Storefront.Proofs.Geometry.Fit
import Storefront.Proofs.Image.Raster

/-! A picture on its canvas: the rectangle that it takes up, in which each of its pixels stands once,
and the background around it. -/

namespace Storefront

variable {p : Picture} {c : Canvas} {n : Normalized} {place : Placement} {r : Raster Color}
variable {size : Dimensions} {x y i j : Nat}

namespace Placement

def Covers (place : Placement) (x y : Nat) : Prop :=
  (place.offsetX.toNat ≤ x ∧ x < place.offsetX.toNat + place.scaled.width.toNat) ∧
    (place.offsetY.toNat ≤ y ∧ y < place.offsetY.toNat + place.scaled.height.toNat)

instance : Decidable (place.Covers x y) := inferInstanceAs (Decidable (_ ∧ _))

theorem Covers.lt (h : place.Covers x y) :
    x - place.offsetX.toNat < place.scaled.width.toNat ∧
      y - place.offsetY.toNat < place.scaled.height.toNat :=
  ⟨Nat.sub_lt_left_of_lt_add h.1.1 h.1.2, Nat.sub_lt_left_of_lt_add h.2.1 h.2.2⟩

theorem covers_add (hi : i < place.scaled.width.toNat) (hj : j < place.scaled.height.toNat) :
    place.Covers (place.offsetX.toNat + i) (place.offsetY.toNat + j) :=
  ⟨⟨Nat.le_add_right _ i, Nat.add_lt_add_left hi _⟩, ⟨Nat.le_add_right _ j, Nat.add_lt_add_left hj _⟩⟩

theorem existsUnique_covers (hi : i < place.scaled.width.toNat)
    (hj : j < place.scaled.height.toNat) :
    ∃! q : Nat × Nat, place.Covers q.1 q.2 ∧
      q.1 - place.offsetX.toNat = i ∧ q.2 - place.offsetY.toNat = j := by
  refine ⟨(place.offsetX.toNat + i, place.offsetY.toNat + j),
    ⟨covers_add hi hj, Nat.add_sub_cancel_left _ i, Nat.add_sub_cancel_left _ j⟩, ?_⟩
  rintro ⟨x, y⟩ ⟨hcovers, rfl, rfl⟩
  rw [Nat.add_sub_cancel' hcovers.1.1, Nat.add_sub_cancel' hcovers.2.1]

end Placement

theorem Canvas.get?_compose_of_covers (hr : r.size = place.scaled) (hx : x < c.target.width.toNat)
    (hy : y < c.target.height.toNat) (h : place.Covers x y) :
    ∃ color, (c.compose place r).get? x y = some color ∧
      r.get? (x - place.offsetX.toNat) (y - place.offsetY.toNat) = some color := by
  obtain ⟨color, hcolor⟩ :
      ∃ color, r.get? (x - place.offsetX.toNat) (y - place.offsetY.toNat) = some color :=
    ⟨_, Raster.get?_eq_get (hr ▸ h.lt.1) (hr ▸ h.lt.2)⟩
  refine ⟨color, ?_, hcolor⟩
  rw [compose, Raster.get?_ofFn hx hy, hr, inside?, if_pos h.1, inside?, if_pos h.2]
  simp only [hcolor, Option.getD_some]

theorem Canvas.get?_compose_of_not_covers (hr : r.size = place.scaled)
    (hx : x < c.target.width.toNat) (hy : y < c.target.height.toNat) (h : ¬ place.Covers x y) :
    (c.compose place r).get? x y = some c.background := by
  rw [compose, Raster.get?_ofFn hx hy, hr]
  rcases Decidable.not_and_iff_not_or_not.1 h with hcolumn | hrow
  · rw [inside?, if_neg hcolumn]
  · cases inside? place.offsetX place.scaled.width x with
    | none => rfl
    | some i => rw [inside?, if_neg hrow]

namespace Picture

def content (p : Picture) (background : Color) (size : Dimensions) : Raster Color :=
  if size = p.size then p.flatten background else (p.flatten background).resample size

theorem scaleTo_flatten (p : Picture) (background : Color) (size : Dimensions) :
    (p.flatten background).scaleTo size = p.content background size := by
  rw [Raster.scaleTo, size_flatten, content]

theorem size_content (p : Picture) (background : Color) (size : Dimensions) :
    (p.content background size).size = size := by
  unfold content
  split
  next h => rw [size_flatten, h]
  next => rw [Raster.size_resample]

theorem flatten_of_solid (hp : p.hasAlpha = false) (background other : Color) :
    p.flatten background = p.flatten other := by
  cases p with
  | l8 | rgb8 | l16 | rgb16 | rgb32f => rfl
  | la8 | rgba8 | la16 | rgba16 | rgba32f => contradiction

theorem content_of_solid (hp : p.hasAlpha = false) (background other : Color) :
    p.content background size = p.content other size := by
  rw [content, content, flatten_of_solid hp background other]

/-- An empty picture is refused before an empty canvas is, and nothing else is refused. -/
theorem normalize_cases (p : Picture) (c : Canvas) :
    (p.size.isEmpty = true ∧ p.normalize c = .error (.invalidDimensions p.size)) ∨
    (p.size.isEmpty = false ∧ c.target.isEmpty = true ∧
      p.normalize c = .error (.invalidDimensions c.target)) ∨
    (p.size.isEmpty = false ∧ c.target.isEmpty = false ∧
      ∃ scaled, p.size.fitWithin c.target = .ok scaled ∧
        p.normalize c = .ok
          { image := c.compose (.centered scaled c.target) (p.content c.background scaled)
            sourceSize := p.size
            placement := .centered scaled c.target
            flattenedAlpha := p.hasAlpha }) := by
  unfold normalize
  cases hp : p.size.isEmpty with
  | true => exact .inl ⟨rfl, rfl⟩
  | false =>
    cases hc : c.target.isEmpty with
    | true => exact .inr (.inl ⟨rfl, rfl, rfl⟩)
    | false =>
      obtain ⟨scaled, hscaled⟩ := Dimensions.exists_fitWithin hp c.target
      refine .inr (.inr ⟨rfl, rfl, scaled, hscaled, ?_⟩)
      rw [hscaled, ← scaleTo_flatten]
      rfl

theorem normalize_eq_ok_iff : p.normalize c = .ok n ↔
    p.size.isEmpty = false ∧ c.target.isEmpty = false ∧
      ∃ scaled, p.size.fitWithin c.target = .ok scaled ∧
        n = { image := c.compose (.centered scaled c.target) (p.content c.background scaled)
              sourceSize := p.size
              placement := .centered scaled c.target
              flattenedAlpha := p.hasAlpha } := by
  obtain ⟨hp, hnorm⟩ | ⟨hp, hc, hnorm⟩ | ⟨hp, hc, scaled, hscaled, hnorm⟩ := normalize_cases p c
  · rw [hnorm, hp]
    simp only [reduceCtorEq, Bool.true_eq_false, false_and]
  · rw [hnorm, hc]
    simp only [reduceCtorEq, Bool.true_eq_false, false_and, and_false]
  · rw [hnorm, Except.ok.injEq]
    constructor
    · rintro rfl
      exact ⟨hp, hc, scaled, hscaled, rfl⟩
    · rintro ⟨-, -, scaled', hscaled', rfl⟩
      rw [Except.ok.inj (hscaled.symm.trans hscaled')]

theorem normalize_eq_error_iff {e : ImageError} : p.normalize c = .error e ↔
    p.size.isEmpty = true ∧ e = .invalidDimensions p.size ∨
    p.size.isEmpty = false ∧ c.target.isEmpty = true ∧ e = .invalidDimensions c.target := by
  obtain ⟨hp, hnorm⟩ | ⟨hp, hc, hnorm⟩ | ⟨hp, hc, scaled, -, hnorm⟩ := normalize_cases p c
  · rw [hnorm, hp, Except.error.injEq, eq_comm]
    simp only [true_and, Bool.true_eq_false, false_and, or_false]
  · rw [hnorm, hp, hc, Except.error.injEq, eq_comm]
    simp only [true_and, Bool.false_eq_true, false_and, false_or]
  · rw [hnorm, hp, hc]
    simp only [reduceCtorEq, Bool.false_eq_true, false_and, and_false, or_false]

theorem exists_normalize_iff :
    (∃ n, p.normalize c = .ok n) ↔ p.size.isEmpty = false ∧ c.target.isEmpty = false := by
  obtain ⟨hp, hnorm⟩ | ⟨hp, hc, hnorm⟩ | ⟨hp, hc, scaled, -, hnorm⟩ := normalize_cases p c
  · rw [hnorm, hp]
    simp only [reduceCtorEq, exists_false, Bool.true_eq_false, false_and]
  · rw [hnorm, hc]
    simp only [reduceCtorEq, exists_false, Bool.true_eq_false, and_false]
  · exact ⟨fun _ => ⟨hp, hc⟩, fun _ => ⟨_, hnorm⟩⟩

/-- The picture lies in the middle of the canvas, whole and once, and the background around it. -/
structure LiesOn (p : Picture) (c : Canvas) (n : Normalized) : Prop where
  sourceSize : n.sourceSize = p.size
  flattenedAlpha : n.flattenedAlpha = p.hasAlpha
  placement : ∃ scaled, p.size.fitWithin c.target = .ok scaled ∧
    n.placement = .centered scaled c.target
  withinWidth : n.placement.offsetX.toNat + n.placement.scaled.width.toNat ≤ c.target.width.toNat
  withinHeight : n.placement.offsetY.toNat + n.placement.scaled.height.toNat ≤ c.target.height.toNat
  size : n.image.size = c.target
  contentSize : (p.content c.background n.placement.scaled).size = n.placement.scaled
  inside : ∀ x y, n.placement.Covers x y → ∃ color, n.image.get? x y = some color ∧
    (p.content c.background n.placement.scaled).get? (x - n.placement.offsetX.toNat)
      (y - n.placement.offsetY.toNat) = some color
  outside : ∀ x y, x < c.target.width.toNat → y < c.target.height.toNat →
    ¬ n.placement.Covers x y → n.image.get? x y = some c.background
  once : ∀ i j, i < n.placement.scaled.width.toNat → j < n.placement.scaled.height.toNat →
    ∃! q : Nat × Nat, n.placement.Covers q.1 q.2 ∧
      q.1 - n.placement.offsetX.toNat = i ∧ q.2 - n.placement.offsetY.toNat = j

theorem liesOn_of_normalize (h : p.normalize c = .ok n) : p.LiesOn c n := by
  obtain ⟨-, hc, scaled, hscaled, rfl⟩ := normalize_eq_ok_iff.1 h
  obtain ⟨hwidth, hheight⟩ := Dimensions.fitWithin_le hc hscaled
  obtain ⟨hright, hbottom⟩ := Placement.centered_within hwidth hheight
  have hcontent := size_content p c.background scaled
  refine ⟨rfl, rfl, ⟨scaled, hscaled, rfl⟩, hright, hbottom, rfl, hcontent, ?_, ?_, ?_⟩
  · intro x y hcovers
    have hx := Nat.lt_of_lt_of_le hcovers.1.2 hright
    have hy := Nat.lt_of_lt_of_le hcovers.2.2 hbottom
    exact Canvas.get?_compose_of_covers hcontent hx hy hcovers
  · intro x y hx hy hcovers
    exact Canvas.get?_compose_of_not_covers hcontent hx hy hcovers
  · intro i j hi hj
    exact Placement.existsUnique_covers hi hj

theorem LiesOn.placement_congr {m : Normalized} {background : Color} (h : p.LiesOn c n)
    (hm : p.LiesOn ⟨c.target, background⟩ m) : m.placement = n.placement := by
  obtain ⟨scaled, hscaled, hplacement⟩ := h.placement
  obtain ⟨other, hother, hplacement'⟩ := hm.placement
  obtain rfl := Except.ok.inj (hscaled.symm.trans hother)
  rw [hplacement, hplacement']

theorem LiesOn.get?_congr {m : Normalized} {background : Color} (hp : p.hasAlpha = false)
    (h : p.LiesOn c n) (hm : p.LiesOn ⟨c.target, background⟩ m) (hcovers : n.placement.Covers x y) :
    m.image.get? x y = n.image.get? x y := by
  have hplacement := h.placement_congr hm
  obtain ⟨color, hcolor, hcontent⟩ := h.inside x y hcovers
  obtain ⟨other, hother, hcontent'⟩ := hm.inside x y (by rwa [hplacement])
  rw [hplacement, content_of_solid hp background c.background, hcontent] at hcontent'
  rw [hcolor, hother, hcontent']

/-- A picture comes on a canvas unless one of them is empty; it then lies there in the middle, whole
and once. Another background shows around a picture without an alpha channel, and not in it. -/
theorem liesOn_normalize (p : Picture) (c : Canvas) :
    (∀ e, p.normalize c = .error e ↔
      p.size.isEmpty = true ∧ e = .invalidDimensions p.size ∨
      p.size.isEmpty = false ∧ c.target.isEmpty = true ∧ e = .invalidDimensions c.target) ∧
    ((∃ n, p.normalize c = .ok n) ↔ p.size.isEmpty = false ∧ c.target.isEmpty = false) ∧
    (∀ n, p.normalize c = .ok n → p.LiesOn c n) ∧
    ∀ background n m, p.hasAlpha = false → p.normalize c = .ok n →
      p.normalize ⟨c.target, background⟩ = .ok m →
      m.placement = n.placement ∧
        ∀ x y, n.placement.Covers x y → m.image.get? x y = n.image.get? x y := by
  refine ⟨fun e => normalize_eq_error_iff, exists_normalize_iff, fun n => liesOn_of_normalize, ?_⟩
  intro background n m hp hn hm
  have hlies := liesOn_of_normalize hn
  have hlies' := liesOn_of_normalize hm
  exact ⟨hlies.placement_congr hlies', fun x y hcovers => hlies.get?_congr hp hlies' hcovers⟩

def grayPair : Picture :=
  .l8 ⟨⟨2, 1⟩, #[200, 0], rfl⟩

theorem liesOn_grayPair : ∃ n m, grayPair.normalize ⟨⟨2, 4⟩, Color.white⟩ = .ok n ∧
    grayPair.normalize ⟨⟨2, 4⟩, Color.black⟩ = .ok m ∧ n.placement = ⟨⟨2, 1⟩, 0, 1⟩ ∧
    grayPair.LiesOn ⟨⟨2, 4⟩, Color.white⟩ n ∧ m.image.get? 0 1 = n.image.get? 0 1 ∧
    n.image.get? 0 0 = some Color.white ∧ m.image.get? 0 0 = some Color.black := by
  obtain ⟨-, -, hlies, hsolid⟩ := liesOn_normalize grayPair ⟨⟨2, 4⟩, Color.white⟩
  refine ⟨_, _, rfl, rfl, by decide +kernel, hlies _ rfl, ?_, by decide +kernel, by decide +kernel⟩
  exact (hsolid Color.black _ _ rfl rfl rfl).2 0 1 (by decide +kernel)

end Picture
end Storefront
