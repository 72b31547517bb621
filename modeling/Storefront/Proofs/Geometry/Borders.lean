import Storefront.Proofs.Geometry.Fit

/-! What a placed picture leaves free of its target: on the right and at the bottom as much as in front
of the picture, up to a pixel, and nothing at all on the axis that a fitted picture fills. -/

namespace Storefront.Placement

variable {scaled target : Dimensions}

theorem toNat_rightBorder (place : Placement) (target : Dimensions) :
    (place.rightBorder target).toNat =
      target.width.toNat - place.offsetX.toNat - place.scaled.width.toNat := by
  rw [rightBorder, toNat_leftOver, toNat_leftOver]

theorem toNat_bottomBorder (place : Placement) (target : Dimensions) :
    (place.bottomBorder target).toNat =
      target.height.toNat - place.offsetY.toNat - place.scaled.height.toNat := by
  rw [bottomBorder, toNat_leftOver, toNat_leftOver]

theorem coe_sub_sub (a b c : Nat) : ((a - b - c : Nat) : Int) = max 0 ((a : Int) - b - c) := by
  omega

/-- Offset, picture and border add up to the target on both axes, the border is as wide as the offset
or one pixel wider, and on one axis there is neither. -/
structure Balanced (place : Placement) (target : Dimensions) : Prop where
  width : place.offsetX.toNat + place.scaled.width.toNat + (place.rightBorder target).toNat =
    target.width.toNat
  height : place.offsetY.toNat + place.scaled.height.toNat + (place.bottomBorder target).toNat =
    target.height.toNat
  across : place.offsetX.toNat ≤ (place.rightBorder target).toNat ∧
    (place.rightBorder target).toNat ≤ place.offsetX.toNat + 1
  down : place.offsetY.toNat ≤ (place.bottomBorder target).toNat ∧
    (place.bottomBorder target).toNat ≤ place.offsetY.toNat + 1
  touching : (place.offsetX = 0 ∧ place.rightBorder target = 0) ∨
    (place.offsetY = 0 ∧ place.bottomBorder target = 0)

theorem halves {whole part offset border : Nat} (hpart : part ≤ whole)
    (hoffset : offset = (whole - part) / 2) (hborder : border = whole - offset - part) :
    offset + part + border = whole ∧ (offset ≤ border ∧ border ≤ offset + 1) ∧
      (part = whole → offset = 0 ∧ border = 0) := by
  omega

theorem balanced_centered (h : scaled.Fills target) : (centered scaled target).Balanced target := by
  obtain ⟨⟨hwidth, hheight⟩, hside⟩ := h
  obtain ⟨hacross, hleft, hfull⟩ := halves (UInt32.le_iff_toNat_le.1 hwidth)
    (toNat_offsetX_centered scaled target) (toNat_rightBorder (centered scaled target) target)
  obtain ⟨hdown, htop, hhigh⟩ := halves (UInt32.le_iff_toNat_le.1 hheight)
    (toNat_offsetY_centered scaled target) (toNat_bottomBorder (centered scaled target) target)
  refine ⟨hacross, hdown, hleft, htop, hside.imp (fun heq => ?_) fun heq => ?_⟩
  · obtain ⟨hoffset, hborder⟩ := hfull (congrArg UInt32.toNat heq)
    exact ⟨UInt32.toNat_inj.1 hoffset, UInt32.toNat_inj.1 hborder⟩
  · obtain ⟨hoffset, hborder⟩ := hhigh (congrArg UInt32.toNat heq)
    exact ⟨UInt32.toNat_inj.1 hoffset, UInt32.toNat_inj.1 hborder⟩

/-- A fitted picture is balanced in its target. For any placement, also one that reaches over the edge,
a border is what unbounded integers leave, and nothing where they would be negative. -/
theorem balanced_fitWithin :
    (∀ source target : Dimensions, source.isEmpty = false → target.isEmpty = false →
      ∃ scaled, source.fitWithin target = .ok scaled ∧ (centered scaled target).Balanced target) ∧
    ∀ (place : Placement) (target : Dimensions),
      ((place.rightBorder target).toNat : Int) =
        max 0 ((target.width.toNat : Int) - place.offsetX.toNat - place.scaled.width.toNat) ∧
      ((place.bottomBorder target).toNat : Int) =
        max 0 ((target.height.toNat : Int) - place.offsetY.toNat - place.scaled.height.toNat) := by
  constructor
  · intro source target hs ht
    obtain ⟨scaled, hscaled⟩ := Dimensions.exists_fitWithin hs target
    exact ⟨scaled, hscaled, balanced_centered (Dimensions.fills_of_fitWithin ht hscaled)⟩
  · intro place target
    rw [toNat_rightBorder, toNat_bottomBorder]
    exact ⟨coe_sub_sub _ _ _, coe_sub_sub _ _ _⟩

/-- An odd pixel is left over below the picture; the other placement reaches over the right edge by
more than a word holds. -/
theorem balanced_oddPixel :
    (∃ scaled, Dimensions.fitWithin ⟨8, 4⟩ ⟨4, 5⟩ = .ok scaled ∧
      (centered scaled ⟨4, 5⟩).Balanced ⟨4, 5⟩ ∧ scaled = ⟨4, 2⟩ ∧
      (centered scaled ⟨4, 5⟩).offsetY = 1 ∧ (centered scaled ⟨4, 5⟩).bottomBorder ⟨4, 5⟩ = 2) ∧
    ((rightBorder ⟨⟨4294967295, 1⟩, 4294967295, 0⟩ ⟨7, 7⟩).toNat : Int) =
      max 0 ((7 : Int) - 4294967295 - 4294967295) := by
  obtain ⟨hfitted, hborders⟩ := balanced_fitWithin
  obtain ⟨scaled, hscaled, hbalanced⟩ := hfitted ⟨8, 4⟩ ⟨4, 5⟩ rfl rfl
  obtain rfl : (⟨4, 2⟩ : Dimensions) = scaled := Except.ok.inj hscaled
  exact ⟨⟨_, hscaled, hbalanced, rfl, rfl, rfl⟩, (hborders _ ⟨7, 7⟩).1⟩

end Storefront.Placement
