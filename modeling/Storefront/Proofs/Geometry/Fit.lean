import Mathlib.Algebra.Group.Nat.Defs
import Storefront.Geometry.Fit

/-! Fitting a size into another one, in whole numbers: the products of two sides do not overflow, a
fitted size stays inside its target and fills one of its sides, and such a size is left as it is. -/

namespace Storefront

variable {source target scaled d : Dimensions}

namespace Dimensions

theorem ne_zero_of_not_isEmpty (hd : d.isEmpty = false) : d.width ≠ 0 ∧ d.height ≠ 0 := by
  rw [Bool.eq_false_iff, ne_eq, isEmpty_iff, not_or] at hd
  exact hd

theorem pos_of_ne_zero {a : UInt32} (ha : a ≠ 0) : 0 < a.toNat :=
  Nat.pos_of_ne_zero fun h => ha (UInt32.toNat_inj.1 h)

theorem pos_of_not_isEmpty (hd : d.isEmpty = false) : 0 < d.width.toNat ∧ 0 < d.height.toNat :=
  ⟨pos_of_ne_zero (ne_zero_of_not_isEmpty hd).1, pos_of_ne_zero (ne_zero_of_not_isEmpty hd).2⟩

theorem not_isEmpty_of_pos (hwidth : 0 < d.width.toNat) (hheight : 0 < d.height.toNat) :
    d.isEmpty = false := by
  rw [Bool.eq_false_iff, ne_eq, isEmpty_iff]
  rintro (hzero | hzero)
  · exact Nat.ne_of_gt hwidth (congrArg UInt32.toNat hzero)
  · exact Nat.ne_of_gt hheight (congrArg UInt32.toNat hzero)

theorem eq_of_toNat (hwidth : source.width.toNat = target.width.toNat)
    (hheight : source.height.toNat = target.height.toNat) : source = target := by
  obtain ⟨sw, sh⟩ := source
  obtain ⟨tw, th⟩ := target
  rw [mk.injEq]
  exact ⟨UInt32.toNat_inj.1 hwidth, UInt32.toNat_inj.1 hheight⟩

theorem toNat_mul_sides (a b : UInt32) :
    (a.toUInt64 * b.toUInt64).toNat = a.toNat * b.toNat := by
  rw [UInt64.toNat_mul, UInt32.toNat_toUInt64, UInt32.toNat_toUInt64]
  apply Nat.mod_eq_of_lt
  calc a.toNat * b.toNat < 2 ^ 32 * 2 ^ 32 := Nat.mul_lt_mul_of_lt_of_lt a.toNat_lt b.toNat_lt
    _ = 2 ^ 64 := by decide

theorem toUInt64_ne_zero {a : UInt32} (ha : a ≠ 0) : a.toUInt64 ≠ 0 := by
  intro h
  have hzero := congrArg UInt64.toNat h
  rw [UInt32.toNat_toUInt64] at hzero
  exact ha (UInt32.toNat_inj.1 hzero)

theorem wider_iff : source.wider target = true ↔
    target.width.toNat * source.height.toNat < source.width.toNat * target.height.toNat := by
  rw [wider, decide_eq_true_iff, UInt64.lt_iff_toNat_lt, toNat_mul_sides, toNat_mul_sides]

theorem toNat_side {n : UInt64} (hn : n.toNat < 2 ^ 32) : (side n).toNat = max 1 n.toNat := by
  unfold side
  split
  next h =>
    rw [h]
    rfl
  next h =>
    have hpos : 0 < n.toNat := Nat.pos_of_ne_zero fun hzero => h (UInt64.toNat_inj.1 hzero)
    rw [UInt64.toNat_toUInt32, Nat.mod_eq_of_lt hn, Nat.max_eq_right hpos]

theorem toNat_side_toUInt64 (a : UInt32) : (side a.toUInt64).toNat = max 1 a.toNat := by
  rw [toNat_side (by rw [UInt32.toNat_toUInt64]; exact a.toNat_lt), UInt32.toNat_toUInt64]

theorem quotient_mul_sides {a b c : UInt32} (hc : c ≠ 0) :
    ∃ q, quotient (a.toUInt64 * b.toUInt64) c.toUInt64 = .ok q ∧
      q.toNat = a.toNat * b.toNat / c.toNat := by
  refine ⟨_, if_neg (toUInt64_ne_zero hc), ?_⟩
  rw [UInt64.toNat_div, toNat_mul_sides, UInt32.toNat_toUInt64]

def fitSides (sw sh tw th : Nat) : Nat × Nat :=
  if tw * sh < sw * th then (max 1 tw, max 1 (tw * sh / sw))
  else (max 1 (th * sw / sh), max 1 th)

theorem fitWithin_of_wider
    (h : target.width.toNat * source.height.toNat < source.width.toNat * target.height.toNat) :
    ∃ scaled, source.fitWithin target = .ok scaled ∧
      (scaled.width.toNat, scaled.height.toNat) =
        fitSides source.width.toNat source.height.toNat target.width.toNat target.height.toNat := by
  have hwidth : source.width ≠ 0 := by
    intro hzero
    rw [hzero] at h
    simp at h
  obtain ⟨q, hq, hqn⟩ := quotient_mul_sides (a := target.width) (b := source.height) hwidth
  have hfits : q.toNat < 2 ^ 32 := by
    rw [hqn]
    exact Nat.lt_trans (Nat.div_lt_of_lt_mul h) target.height.toNat_lt
  refine ⟨⟨side target.width.toUInt64, side q⟩, ?_, ?_⟩
  · rw [fitWithin, if_pos (wider_iff.2 h), hq]
    rfl
  · rw [fitSides, if_pos h, toNat_side hfits, toNat_side_toUInt64, hqn]

theorem fitWithin_of_not_wider
    (h : source.width.toNat * target.height.toNat ≤ target.width.toNat * source.height.toNat)
    (hheight : source.height ≠ 0) :
    ∃ scaled, source.fitWithin target = .ok scaled ∧
      (scaled.width.toNat, scaled.height.toNat) =
        fitSides source.width.toNat source.height.toNat target.width.toNat target.height.toNat := by
  obtain ⟨q, hq, hqn⟩ := quotient_mul_sides (a := target.height) (b := source.width) hheight
  have hfits : q.toNat < 2 ^ 32 := by
    have hbound : q.toNat ≤ target.width.toNat := by
      rw [hqn]
      apply Nat.div_le_of_le_mul
      calc target.height.toNat * source.width.toNat
        _ = source.width.toNat * target.height.toNat := Nat.mul_comm _ _
        _ ≤ target.width.toNat * source.height.toNat := h
        _ = source.height.toNat * target.width.toNat := Nat.mul_comm _ _
    exact Nat.lt_of_le_of_lt hbound target.width.toNat_lt
  have hnot : ¬source.wider target = true := fun hwider => Nat.not_lt_of_le h (wider_iff.1 hwider)
  refine ⟨⟨side q, side target.height.toUInt64⟩, ?_, ?_⟩
  · rw [fitWithin, if_neg hnot, hq]
    rfl
  · rw [fitSides, if_neg (Nat.not_lt_of_le h), toNat_side hfits, toNat_side_toUInt64, hqn]

/-- Words give what whole numbers give. The divisor depends on the comparison, and only the height
of the source can be a divisor of zero: a source that is wider has a width. -/
theorem fitWithin_cases (source target : Dimensions) :
    ((source.height = 0 ∧ (source.width = 0 ∨ target.height = 0)) ∧
      source.fitWithin target = .error .divisionByZero) ∨
    (¬(source.height = 0 ∧ (source.width = 0 ∨ target.height = 0)) ∧
      ∃ scaled, source.fitWithin target = .ok scaled ∧
        (scaled.width.toNat, scaled.height.toNat) =
          fitSides source.width.toNat source.height.toNat target.width.toNat
            target.height.toNat) := by
  rcases Nat.lt_or_ge (target.width.toNat * source.height.toNat)
    (source.width.toNat * target.height.toNat) with hlt | hle
  · refine .inr ⟨?_, fitWithin_of_wider hlt⟩
    rintro ⟨-, hzero | hzero⟩ <;> simp [hzero] at hlt
  · by_cases hheight : source.height = 0
    · refine .inl ⟨⟨hheight, ?_⟩, ?_⟩
      · have hproduct : source.width.toNat * target.height.toNat = 0 := by
          simpa [hheight] using hle
        rcases Nat.mul_eq_zero.1 hproduct with hwidth | htarget
        · exact .inl (UInt32.toNat_inj.1 hwidth)
        · exact .inr (UInt32.toNat_inj.1 htarget)
      · have hnot : ¬source.wider target = true :=
          fun hwider => Nat.not_lt_of_le hle (wider_iff.1 hwider)
        rw [fitWithin, if_neg hnot, hheight]
        rfl
    · exact .inr ⟨fun hzero => hheight hzero.1, fitWithin_of_not_wider hle hheight⟩

theorem exists_fitWithin (hs : source.isEmpty = false) (target : Dimensions) :
    ∃ scaled, source.fitWithin target = .ok scaled := by
  obtain ⟨⟨hzero, -⟩, -⟩ | ⟨-, scaled, hscaled, -⟩ := fitWithin_cases source target
  · exact absurd hzero (ne_zero_of_not_isEmpty hs).2
  · exact ⟨scaled, hscaled⟩

theorem sides_of_fitWithin (h : source.fitWithin target = .ok scaled) :
    (scaled.width.toNat, scaled.height.toNat) =
      fitSides source.width.toNat source.height.toNat target.width.toNat target.height.toNat := by
  obtain ⟨-, herror⟩ | ⟨-, scaled', hscaled, hsides⟩ := fitWithin_cases source target
  · rw [herror] at h
    contradiction
  · obtain rfl := Except.ok.inj (h.symm.trans hscaled)
    exact hsides

theorem fitSides_pos (sw sh tw th : Nat) :
    0 < (fitSides sw sh tw th).1 ∧ 0 < (fitSides sw sh tw th).2 := by
  have hpos (n : Nat) : 0 < max 1 n := Nat.le_max_left 1 n
  unfold fitSides
  split <;> exact ⟨hpos _, hpos _⟩

theorem fitSides_le (sw sh tw th : Nat) :
    (fitSides sw sh tw th).1 ≤ max 1 tw ∧ (fitSides sw sh tw th).2 ≤ max 1 th := by
  unfold fitSides
  split
  next hlt =>
    have hheight : tw * sh / sw ≤ th := Nat.le_of_lt (Nat.div_lt_of_lt_mul hlt)
    exact ⟨Nat.le_refl _, by omega⟩
  next hle =>
    have hwidth : th * sw / sh ≤ tw := by
      apply Nat.div_le_of_le_mul
      rw [Nat.mul_comm th sw, Nat.mul_comm sh tw]
      exact Nat.le_of_not_lt hle
    exact ⟨by omega, Nat.le_refl _⟩

theorem fitSides_fills (sw sh tw th : Nat) :
    (fitSides sw sh tw th).1 = max 1 tw ∨ (fitSides sw sh tw th).2 = max 1 th := by
  unfold fitSides
  split
  · exact .inl rfl
  · exact .inr rfl

theorem fitSides_of_fills {sw sh tw th : Nat} (hsw : 0 < sw) (hsh : 0 < sh) (hwidth : sw ≤ tw)
    (hheight : sh ≤ th) (h : sw = tw ∨ sh = th) : fitSides sw sh tw th = (sw, sh) := by
  -- As high as the target, the source is not wider than it, and its width is its own.
  have hhigh : fitSides sw sh tw sh = (sw, sh) := by
    have hnot : ¬tw * sh < sw * sh := Nat.not_lt_of_le (Nat.mul_le_mul_right sh hwidth)
    rw [fitSides, if_neg hnot, Nat.mul_div_cancel_left sw hsh, Nat.max_eq_right hsw,
      Nat.max_eq_right hsh]
  rcases h with rfl | rfl
  · rcases Nat.lt_or_eq_of_le hheight with hlt | rfl
    · have hwider : sw * sh < sw * th := Nat.mul_lt_mul_of_pos_left hlt hsw
      rw [fitSides, if_pos hwider, Nat.mul_div_cancel_left sh hsw, Nat.max_eq_right hsw,
        Nat.max_eq_right hsh]
    · exact hhigh
  · exact hhigh

theorem pos_of_fitWithin (h : source.fitWithin target = .ok scaled) :
    0 < scaled.width.toNat ∧ 0 < scaled.height.toNat := by
  have hpos := fitSides_pos source.width.toNat source.height.toNat target.width.toNat
    target.height.toNat
  rwa [← sides_of_fitWithin h] at hpos

theorem not_isEmpty_of_fitWithin (h : source.fitWithin target = .ok scaled) :
    scaled.isEmpty = false :=
  not_isEmpty_of_pos (pos_of_fitWithin h).1 (pos_of_fitWithin h).2

theorem le_max_of_fitWithin (h : source.fitWithin target = .ok scaled) :
    scaled.width.toNat ≤ max 1 target.width.toNat ∧
      scaled.height.toNat ≤ max 1 target.height.toNat := by
  have hle := fitSides_le source.width.toNat source.height.toNat target.width.toNat
    target.height.toNat
  rwa [← sides_of_fitWithin h] at hle

theorem fitWithin_le (ht : target.isEmpty = false) (h : source.fitWithin target = .ok scaled) :
    scaled.width.toNat ≤ target.width.toNat ∧ scaled.height.toNat ≤ target.height.toNat := by
  obtain ⟨hwidth, hheight⟩ := pos_of_not_isEmpty ht
  have hle := le_max_of_fitWithin h
  rwa [Nat.max_eq_right hwidth, Nat.max_eq_right hheight] at hle

def Fills (d target : Dimensions) : Prop :=
  (d.width ≤ target.width ∧ d.height ≤ target.height) ∧
    (d.width = target.width ∨ d.height = target.height)

instance : Decidable (d.Fills target) := inferInstanceAs (Decidable (_ ∧ _))

theorem fills_of_fitWithin (ht : target.isEmpty = false)
    (h : source.fitWithin target = .ok scaled) : scaled.Fills target := by
  obtain ⟨hwidth, hheight⟩ := fitWithin_le ht h
  obtain ⟨htw, hth⟩ := pos_of_not_isEmpty ht
  have hfills := fitSides_fills source.width.toNat source.height.toNat target.width.toNat
    target.height.toNat
  rw [← sides_of_fitWithin h, Nat.max_eq_right htw, Nat.max_eq_right hth] at hfills
  exact ⟨⟨UInt32.le_iff_toNat_le.2 hwidth, UInt32.le_iff_toNat_le.2 hheight⟩,
    hfills.imp UInt32.toNat_inj.1 UInt32.toNat_inj.1⟩

theorem Fills.fitWithin (hd : d.isEmpty = false) (h : d.Fills target) :
    d.fitWithin target = .ok d := by
  obtain ⟨scaled, hscaled⟩ := exists_fitWithin hd target
  have hsides := sides_of_fitWithin hscaled
  obtain ⟨hwidth, hheight⟩ := pos_of_not_isEmpty hd
  obtain ⟨⟨hw, hh⟩, hside⟩ := h
  rw [fitSides_of_fills hwidth hheight (UInt32.le_iff_toNat_le.1 hw)
    (UInt32.le_iff_toNat_le.1 hh) (hside.imp (congrArg _) (congrArg _))] at hsides
  obtain ⟨hw, hh⟩ := Prod.mk.inj hsides
  rw [hscaled, eq_of_toNat hw hh]

theorem fitWithin_self (hd : d.isEmpty = false) : d.fitWithin d = .ok d :=
  Fills.fitWithin hd ⟨⟨UInt32.le_refl _, UInt32.le_refl _⟩, .inl rfl⟩

theorem fitWithin_eq_self_iff (hs : source.isEmpty = false) (ht : target.isEmpty = false) :
    source.fitWithin target = .ok source ↔ source.Fills target :=
  ⟨fills_of_fitWithin ht, Fills.fitWithin hs⟩

/-- Fitting computes in words what whole numbers without a bound give: the products fit into 64 bits,
and both sides of a result into 32. Only a source without a height can be a divisor of zero. -/
structure FitsInWords (source target : Dimensions) : Prop where
  wideProduct : (source.width.toUInt64 * target.height.toUInt64).toNat =
    source.width.toNat * target.height.toNat
  highProduct : (target.width.toUInt64 * source.height.toUInt64).toNat =
    target.width.toNat * source.height.toNat
  lowProduct : (target.height.toUInt64 * source.width.toUInt64).toNat =
    target.height.toNat * source.width.toNat
  divides : source.fitWithin target = .error .divisionByZero ↔
    source.height = 0 ∧ (source.width = 0 ∨ target.height = 0)
  otherwise : ¬(source.height = 0 ∧ (source.width = 0 ∨ target.height = 0)) →
    ∃ scaled, source.fitWithin target = .ok scaled ∧
      (scaled.width.toNat, scaled.height.toNat) =
        fitSides source.width.toNat source.height.toNat target.width.toNat target.height.toNat ∧
      scaled.width.toNat ≤ max 1 target.width.toNat ∧
      scaled.height.toNat ≤ max 1 target.height.toNat

theorem fitsInWords (source target : Dimensions) : source.FitsInWords target where
  wideProduct := toNat_mul_sides _ _
  highProduct := toNat_mul_sides _ _
  lowProduct := toNat_mul_sides _ _
  divides := by
    obtain ⟨hzero, herror⟩ | ⟨hzero, scaled, hscaled, -⟩ := fitWithin_cases source target
    · exact iff_of_true herror hzero
    · refine iff_of_false (fun herror => ?_) hzero
      rw [hscaled] at herror
      contradiction
  otherwise hzero := by
    obtain ⟨hzero', -⟩ | ⟨-, scaled, hscaled, hsides⟩ := fitWithin_cases source target
    · exact absurd hzero' hzero
    · exact ⟨scaled, hscaled, hsides, le_max_of_fitWithin hscaled⟩

/-- A source without a width can still be fitted, as one pixel. -/
example : fitWithin ⟨0, 7⟩ ⟨4, 0⟩ = .ok ⟨1, 1⟩ := rfl

end Dimensions

namespace Placement

theorem centered_self (d : Dimensions) : centered d d = ⟨d, 0, 0⟩ := by
  have hnone (n : UInt32) : leftOver n n / 2 = 0 := by
    rw [leftOver, if_pos (UInt32.le_refl n), UInt32.sub_self]
    rfl
  rw [centered, hnone, hnone]

theorem toNat_offsetX_centered (scaled target : Dimensions) :
    (centered scaled target).offsetX.toNat = (target.width.toNat - scaled.width.toNat) / 2 := by
  rw [centered, UInt32.toNat_div, toNat_leftOver]
  rfl

theorem toNat_offsetY_centered (scaled target : Dimensions) :
    (centered scaled target).offsetY.toNat = (target.height.toNat - scaled.height.toNat) / 2 := by
  rw [centered, UInt32.toNat_div, toNat_leftOver]
  rfl

theorem centered_within {scaled target : Dimensions} (hw : scaled.width.toNat ≤ target.width.toNat)
    (hh : scaled.height.toNat ≤ target.height.toNat) :
    (centered scaled target).offsetX.toNat + scaled.width.toNat ≤ target.width.toNat ∧
      (centered scaled target).offsetY.toNat + scaled.height.toNat ≤ target.height.toNat := by
  rw [toNat_offsetX_centered, toNat_offsetY_centered]
  omega

end Placement
end Storefront
