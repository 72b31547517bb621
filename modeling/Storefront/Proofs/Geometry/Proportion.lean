import Mathlib.Algebra.Order.Floor.Semifield
import Mathlib.Data.Rat.Floor
import Mathlib.Tactic.Linarith
import Storefront.Proofs.Geometry.Fit

/-! A fitted size against the exact proportions of its source: both sides of the source on one scale,
rounded down, and a pixel at least. -/

namespace Storefront.Dimensions

variable {source target scaled other : Dimensions}

/-- The largest scale on which the source lies inside the target. -/
def scale (source target : Dimensions) : ℚ :=
  min (target.width.toNat / source.width.toNat) (target.height.toNat / source.height.toNat)

theorem scale_cases (hs : source.isEmpty = false) (target : Dimensions) :
    (target.width.toNat * source.height.toNat < source.width.toNat * target.height.toNat ∧
      source.scale target = target.width.toNat / source.width.toNat) ∨
    (¬target.width.toNat * source.height.toNat < source.width.toNat * target.height.toNat ∧
      source.scale target = target.height.toNat / source.height.toNat) := by
  obtain ⟨hwidth, hheight⟩ := pos_of_not_isEmpty hs
  have hw : (0 : ℚ) < source.width.toNat := Nat.cast_pos.2 hwidth
  have hh : (0 : ℚ) < source.height.toNat := Nat.cast_pos.2 hheight
  rcases Nat.lt_or_ge (target.width.toNat * source.height.toNat)
    (source.width.toNat * target.height.toNat) with hlt | hle
  · refine .inl ⟨hlt, min_eq_left ?_⟩
    rw [div_le_div_iff₀ hw hh, mul_comm (target.height.toNat : ℚ)]
    exact_mod_cast Nat.le_of_lt hlt
  · refine .inr ⟨Nat.not_lt_of_le hle, min_eq_right ?_⟩
    rw [div_le_div_iff₀ hh hw, mul_comm (target.height.toNat : ℚ)]
    exact_mod_cast hle

theorem scale_pos (hs : source.isEmpty = false) (ht : target.isEmpty = false) :
    0 < source.scale target := by
  obtain ⟨hsw, hsh⟩ := pos_of_not_isEmpty hs
  obtain ⟨htw, hth⟩ := pos_of_not_isEmpty ht
  exact lt_min (div_pos (Nat.cast_pos.2 htw) (Nat.cast_pos.2 hsw))
    (div_pos (Nat.cast_pos.2 hth) (Nat.cast_pos.2 hsh))

theorem floor_div_mul (a b c : ℕ) : ⌊(a : ℚ) / c * b⌋₊ = a * b / c := by
  rw [div_mul_eq_mul_div, ← Nat.cast_mul, Nat.floor_div_eq_div]

theorem floor_div_mul_self {a c : ℕ} (hc : 0 < c) : ⌊(a : ℚ) / c * c⌋₊ = a := by
  rw [floor_div_mul, Nat.mul_div_cancel a hc]

/-- The side that limits the scale comes out whole, so rounding down leaves it alone. -/
theorem fitSides_eq_floor (hs : source.isEmpty = false) (target : Dimensions) :
    fitSides source.width.toNat source.height.toNat target.width.toNat target.height.toNat =
      (max 1 ⌊source.scale target * source.width.toNat⌋₊,
        max 1 ⌊source.scale target * source.height.toNat⌋₊) := by
  obtain ⟨hwidth, hheight⟩ := pos_of_not_isEmpty hs
  obtain ⟨hlt, hscale⟩ | ⟨hnot, hscale⟩ := scale_cases hs target
  · rw [fitSides, if_pos hlt, hscale, floor_div_mul_self hwidth, floor_div_mul]
  · rw [fitSides, if_neg hnot, hscale, floor_div_mul_self hheight, floor_div_mul]

theorem fitWithin_eq_ok_iff (hs : source.isEmpty = false) : source.fitWithin target = .ok scaled ↔
    scaled.width.toNat = max 1 ⌊source.scale target * source.width.toNat⌋₊ ∧
      scaled.height.toNat = max 1 ⌊source.scale target * source.height.toNat⌋₊ := by
  rw [← Prod.mk.injEq, ← fitSides_eq_floor hs]
  constructor
  · exact sides_of_fitWithin
  · intro hsides
    obtain ⟨scaled', hscaled⟩ := exists_fitWithin hs target
    obtain ⟨hwidth, hheight⟩ := Prod.mk.inj (hsides.trans (sides_of_fitWithin hscaled).symm)
    rw [hscaled, eq_of_toNat hwidth hheight]

theorem abs_max_one_floor_sub_lt {x : ℚ} (hx : 0 < x) : |((max 1 ⌊x⌋₊ : ℕ) : ℚ) - x| < 1 := by
  have hlt := Nat.lt_floor_add_one x
  rcases Nat.eq_zero_or_pos ⌊x⌋₊ with hzero | hpos
  · rw [hzero, Nat.cast_zero, zero_add] at hlt
    rw [hzero, Nat.max_eq_left (Nat.zero_le 1), Nat.cast_one, abs_lt]
    constructor <;> linarith
  · have hle := Nat.floor_le hx.le
    rw [Nat.max_eq_right hpos, abs_lt]
    constructor <;> linarith

theorem scale_mul_side (hs : source.isEmpty = false) (target : Dimensions) :
    source.scale target * source.width.toNat = target.width.toNat ∨
      source.scale target * source.height.toNat = target.height.toNat := by
  obtain ⟨hwidth, hheight⟩ := pos_of_not_isEmpty hs
  obtain ⟨-, hscale⟩ | ⟨-, hscale⟩ := scale_cases hs target
  · exact .inl (by rw [hscale, div_mul_cancel₀ _ (Nat.cast_ne_zero.2 (Nat.ne_of_gt hwidth))])
  · exact .inr (by rw [hscale, div_mul_cancel₀ _ (Nat.cast_ne_zero.2 (Nat.ne_of_gt hheight))])

/-- The size is the source on its largest scale, each side rounded down and at least one pixel. -/
structure IsFitted (source target scaled : Dimensions) : Prop where
  width : scaled.width.toNat = max 1 ⌊source.scale target * source.width.toNat⌋₊
  height : scaled.height.toNat = max 1 ⌊source.scale target * source.height.toNat⌋₊
  withinWidth : 1 ≤ scaled.width.toNat ∧ scaled.width.toNat ≤ target.width.toNat
  withinHeight : 1 ≤ scaled.height.toNat ∧ scaled.height.toNat ≤ target.height.toNat
  nearWidth : |(scaled.width.toNat : ℚ) - source.scale target * source.width.toNat| < 1
  nearHeight : |(scaled.height.toNat : ℚ) - source.scale target * source.height.toNat| < 1
  exactSide :
    (scaled.width = target.width ∧
      source.scale target * source.width.toNat = target.width.toNat) ∨
    (scaled.height = target.height ∧
      source.scale target * source.height.toNat = target.height.toNat)

theorem isFitted_of_fitWithin (hs : source.isEmpty = false) (ht : target.isEmpty = false)
    (h : source.fitWithin target = .ok scaled) : source.IsFitted target scaled := by
  obtain ⟨hwidth, hheight⟩ := (fitWithin_eq_ok_iff hs).1 h
  obtain ⟨hposw, hposh⟩ := pos_of_fitWithin h
  obtain ⟨hlew, hleh⟩ := fitWithin_le ht h
  have hscale := scale_pos hs ht
  obtain ⟨hsw, hsh⟩ := pos_of_not_isEmpty hs
  obtain ⟨htw, hth⟩ := pos_of_not_isEmpty ht
  refine ⟨hwidth, hheight, ⟨hposw, hlew⟩, ⟨hposh, hleh⟩, ?_, ?_, ?_⟩
  · rw [hwidth]
    exact abs_max_one_floor_sub_lt (mul_pos hscale (Nat.cast_pos.2 hsw))
  · rw [hheight]
    exact abs_max_one_floor_sub_lt (mul_pos hscale (Nat.cast_pos.2 hsh))
  · refine (scale_mul_side hs target).imp (fun hside => ⟨?_, hside⟩) fun hside => ⟨?_, hside⟩
    · rw [hside, Nat.floor_natCast, Nat.max_eq_right htw] at hwidth
      exact UInt32.toNat_inj.1 hwidth
    · rw [hside, Nat.floor_natCast, Nat.max_eq_right hth] at hheight
      exact UInt32.toNat_inj.1 hheight

structure IsMultiple (other source : Dimensions) (factor : ℚ) : Prop where
  width : (other.width.toNat : ℚ) = factor * source.width.toNat
  height : (other.height.toNat : ℚ) = factor * source.height.toNat

theorem IsMultiple.scale_eq {factor : ℚ} (hfactor : 0 < factor)
    (h : other.IsMultiple source factor) (target : Dimensions) :
    other.scale target = source.scale target / factor := by
  have hquotient (a b : ℚ) : a / (factor * b) = a / b / factor := by
    rw [mul_comm, div_div]
  rw [scale, h.width, h.height, hquotient, hquotient, min_div_div_right hfactor.le]
  rfl

theorem IsMultiple.not_isEmpty {factor : ℚ} (hfactor : 0 < factor)
    (h : other.IsMultiple source factor) (hs : source.isEmpty = false) :
    other.isEmpty = false := by
  obtain ⟨hwidth, hheight⟩ := pos_of_not_isEmpty hs
  have hw : (0 : ℚ) < other.width.toNat := by
    rw [h.width]
    exact mul_pos hfactor (Nat.cast_pos.2 hwidth)
  have hh : (0 : ℚ) < other.height.toNat := by
    rw [h.height]
    exact mul_pos hfactor (Nat.cast_pos.2 hheight)
  exact not_isEmpty_of_pos (Nat.cast_pos.1 hw) (Nat.cast_pos.1 hh)

theorem IsMultiple.fitWithin_eq {factor : ℚ} (hfactor : 0 < factor)
    (h : other.IsMultiple source factor) (hs : source.isEmpty = false)
    (hscaled : source.fitWithin target = .ok scaled) : other.fitWithin target = .ok scaled := by
  have hcancel (a : ℚ) : source.scale target / factor * (factor * a) = source.scale target * a := by
    rw [← mul_assoc, div_mul_cancel₀ _ hfactor.ne']
  rw [fitWithin_eq_ok_iff (h.not_isEmpty hfactor hs), h.scale_eq hfactor, h.width, h.height,
    hcancel, hcancel]
  exact (fitWithin_eq_ok_iff hs).1 hscaled

theorem isEmpty_swap (d : Dimensions) : d.swap.isEmpty = d.isEmpty :=
  Bool.or_comm _ _

theorem scale_swap (source target : Dimensions) :
    source.swap.scale target.swap = source.scale target :=
  min_comm _ _

theorem fitWithin_swap (hs : source.isEmpty = false)
    (hscaled : source.fitWithin target = .ok scaled) :
    source.swap.fitWithin target.swap = .ok scaled.swap := by
  rw [fitWithin_eq_ok_iff ((isEmpty_swap source).trans hs), scale_swap]
  exact ((fitWithin_eq_ok_iff hs).1 hscaled).symm

/-- Fitting keeps proportions up to a pixel, sees nothing of a source but its proportions, and treats
both sides alike. -/
theorem proportional_fitWithin (hs : source.isEmpty = false) (ht : target.isEmpty = false) :
    ∃ scaled, source.fitWithin target = .ok scaled ∧
      source.IsFitted target scaled ∧
      (∀ (factor : ℚ) (other : Dimensions), 0 < factor → other.IsMultiple source factor →
        other.fitWithin target = .ok scaled) ∧
      source.swap.fitWithin target.swap = .ok scaled.swap := by
  obtain ⟨scaled, hscaled⟩ := exists_fitWithin hs target
  refine ⟨scaled, hscaled, isFitted_of_fitWithin hs ht hscaled, ?_, fitWithin_swap hs hscaled⟩
  intro factor other hfactor hother
  exact hother.fitWithin_eq hfactor hs hscaled

/-- A line so long that its height is less than a pixel. -/
theorem proportional_line :
    IsFitted ⟨1000, 2⟩ ⟨30, 20⟩ ⟨30, 1⟩ ∧
      fitWithin ⟨1500, 3⟩ ⟨30, 20⟩ = .ok ⟨30, 1⟩ ∧ fitWithin ⟨2, 1000⟩ ⟨20, 30⟩ = .ok ⟨1, 30⟩ := by
  obtain ⟨scaled, hscaled, hfitted, hmultiple, hswap⟩ :=
    @proportional_fitWithin ⟨1000, 2⟩ ⟨30, 20⟩ rfl rfl
  obtain rfl : (⟨30, 1⟩ : Dimensions) = scaled := Except.ok.inj hscaled
  have hlonger : IsMultiple ⟨1500, 3⟩ ⟨1000, 2⟩ (3 / 2) :=
    ⟨show ((1500 : ℕ) : ℚ) = 3 / 2 * (1000 : ℕ) by norm_num,
      show ((3 : ℕ) : ℚ) = 3 / 2 * (2 : ℕ) by norm_num⟩
  exact ⟨hfitted, hmultiple (3 / 2) _ (by norm_num) hlonger, hswap⟩

end Storefront.Dimensions
