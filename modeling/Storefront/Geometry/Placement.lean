import Storefront.Geometry.Dimensions

/-! Where a picture stands on a canvas, and the borders that it leaves. -/

namespace Storefront

structure Placement where
  scaled : Dimensions
  offsetX : UInt32
  offsetY : UInt32
deriving DecidableEq, Inhabited

def leftOver (whole part : UInt32) : UInt32 :=
  if part ≤ whole then whole - part else 0

theorem toNat_leftOver (whole part : UInt32) :
    (leftOver whole part).toNat = whole.toNat - part.toNat := by
  unfold leftOver
  split <;> rename_i h
  · exact UInt32.toNat_sub_of_le _ _ h
  · have : whole.toNat < part.toNat := by simpa [UInt32.le_iff_toNat_le] using h
    simp; omega

namespace Placement

/-- Zero when the picture reaches over the edge. -/
def rightBorder (p : Placement) (target : Dimensions) : UInt32 :=
  leftOver (leftOver target.width p.offsetX) p.scaled.width

def bottomBorder (p : Placement) (target : Dimensions) : UInt32 :=
  leftOver (leftOver target.height p.offsetY) p.scaled.height

/-- Equal borders on both sides; an odd pixel goes to the right and to the bottom. -/
def centered (scaled target : Dimensions) : Placement where
  scaled := scaled
  offsetX := leftOver target.width scaled.width / 2
  offsetY := leftOver target.height scaled.height / 2

end Placement
end Storefront
