import Storefront.Image.Error
import Storefront.Image.Flatten
import Storefront.Image.Resample

/-! Pictures flattened, scaled to fit and centered on a canvas. -/

namespace Storefront

structure Canvas where
  target : Dimensions
  background : Color
deriving DecidableEq

def Canvas.default : Canvas := ⟨⟨1280, 800⟩, Color.white⟩

structure Normalized where
  image : Raster Color
  sourceSize : Dimensions
  placement : Placement
  flattenedAlpha : Bool

def inside? (offset length : UInt32) (n : Nat) : Option Nat :=
  if offset.toNat ≤ n ∧ n < offset.toNat + length.toNat then some (n - offset.toNat) else none

def Canvas.compose (c : Canvas) (p : Placement) (r : Raster Color) : Raster Color :=
  .ofFn c.target fun x y =>
    match inside? p.offsetX r.size.width x, inside? p.offsetY r.size.height y with
    | some i, some j => (r.get? i j).getD c.background
    | _, _ => c.background

/-- Scaling to its own size leaves a picture as it is. -/
def Raster.scaleTo (r : Raster Color) (size : Dimensions) : Raster Color :=
  if size = r.size then r else r.resample size

def Picture.normalize (p : Picture) (c : Canvas) : Except ImageError Normalized :=
  if p.size.isEmpty then .error (.invalidDimensions p.size)
  else if c.target.isEmpty then .error (.invalidDimensions c.target)
  else match p.size.fitWithin c.target with
    | .error e => .error (.arithmetic e)
    | .ok scaled =>
      let placement := Placement.centered scaled c.target
      .ok {
        image := c.compose placement ((p.flatten c.background).scaleTo scaled)
        sourceSize := p.size
        placement := placement
        flattenedAlpha := p.hasAlpha }

end Storefront
