import Storefront.Color
import Storefront.Icon.Shape

/-! The icon: two white braces and three sparkles on a gradient from indigo to violet. -/

namespace Storefront.Icon

def channel (top bottom : Float32) (y size : UInt32) : UInt8 :=
  (top + (bottom - top) * y.toFloat32 / size.toFloat32).toUInt8

def gradientRow (y size : UInt32) : Color :=
  ⟨channel 99 139 y size, channel 102 92 y size, channel 241 246 y size⟩

def gradient (size : UInt32) : Raster Color :=
  .ofFn ⟨size, size⟩ fun _ y => gradientRow y.toUInt32 size

def braceBox (size x : Int) : Box :=
  let bracket := size / 2
  ⟨x - bracket / 4, size / 2 - bracket / 2, x + bracket / 4, size / 2 + bracket / 2⟩

def strokeWidth (size : Int) : Float32 :=
  Float32.ofInt (max (size / 16) 2)

def sparkleRadius (size : Int) : Int :=
  max (size / 32) 2

def shapes (side : UInt32) : List Shape :=
  let size : Int := side.toNat
  [.arc (braceBox size (size / 4)) 90 270 (strokeWidth size),
   .arc (braceBox size (size * 3 / 4)) 270 90 (strokeWidth size),
   .disc (.around (size / 6) (size / 6) (sparkleRadius size)),
   .disc (.around (size * 5 / 6) (size / 6) (sparkleRadius size)),
   .disc (.around (size / 2) (size * 5 / 6) (sparkleRadius size))]

def render? (size : UInt32) : Option (Raster Color) :=
  if size = 0 then none
  else some ((shapes size).foldl (fun r s => s.draw Color.white r) (gradient size))

end Storefront.Icon
