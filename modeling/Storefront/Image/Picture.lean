import Storefront.Color
import Storefront.Image.Raster
import Storefront.Image.Sample

/-! Pictures in ten color modes. -/

namespace Storefront

structure GrayAlpha (S : Type) where
  gray : S
  alpha : S
deriving DecidableEq

structure Rgba (S : Type) where
  red : S
  green : S
  blue : S
  alpha : S
deriving DecidableEq

inductive Picture where
  | l8 (r : Raster UInt8)
  | la8 (r : Raster (GrayAlpha UInt8))
  | rgb8 (r : Raster (Rgb UInt8))
  | rgba8 (r : Raster (Rgba UInt8))
  | l16 (r : Raster UInt16)
  | la16 (r : Raster (GrayAlpha UInt16))
  | rgb16 (r : Raster (Rgb UInt16))
  | rgba16 (r : Raster (Rgba UInt16))
  | rgb32f (r : Raster (Rgb Float32))
  | rgba32f (r : Raster (Rgba Float32))

inductive Bitmap where
  | solid (r : Raster Color)
  | veiled (r : Raster (Rgba UInt8))

section Pixels

variable {S : Type} [Sample S]

def Color.ofGray (v : S) : Color :=
  ⟨Sample.toByte v, Sample.toByte v, Sample.toByte v⟩

def Color.ofSamples (p : Rgb S) : Color :=
  ⟨Sample.toByte p.red, Sample.toByte p.green, Sample.toByte p.blue⟩

def Rgba.ofGray (p : GrayAlpha S) : Rgba UInt8 :=
  ⟨Sample.toByte p.gray, Sample.toByte p.gray, Sample.toByte p.gray, Sample.toByte p.alpha⟩

def Rgba.ofSamples (p : Rgba S) : Rgba UInt8 :=
  ⟨Sample.toByte p.red, Sample.toByte p.green, Sample.toByte p.blue, Sample.toByte p.alpha⟩

end Pixels

def Rgba.color {S : Type} (p : Rgba S) : Rgb S :=
  ⟨p.red, p.green, p.blue⟩

namespace Picture

def size : Picture → Dimensions
  | .l8 r => r.size
  | .la8 r => r.size
  | .rgb8 r => r.size
  | .rgba8 r => r.size
  | .l16 r => r.size
  | .la16 r => r.size
  | .rgb16 r => r.size
  | .rgba16 r => r.size
  | .rgb32f r => r.size
  | .rgba32f r => r.size

def hasAlpha : Picture → Bool
  | .la8 _ | .rgba8 _ | .la16 _ | .rgba16 _ | .rgba32f _ => true
  | .l8 _ | .rgb8 _ | .l16 _ | .rgb16 _ | .rgb32f _ => false

def modeName : Picture → String
  | .l8 _ => "L8"
  | .la8 _ => "La8"
  | .rgb8 _ => "Rgb8"
  | .rgba8 _ => "Rgba8"
  | .l16 _ => "L16"
  | .la16 _ => "La16"
  | .rgb16 _ => "Rgb16"
  | .rgba16 _ => "Rgba16"
  | .rgb32f _ => "Rgb32F"
  | .rgba32f _ => "Rgba32F"

/-- Eight bits a channel; gray is copied to three channels. -/
def bitmap : Picture → Bitmap
  | .l8 r => .solid (r.map Color.ofGray)
  | .la8 r => .veiled (r.map Rgba.ofGray)
  | .rgb8 r => .solid (r.map Color.ofSamples)
  | .rgba8 r => .veiled (r.map Rgba.ofSamples)
  | .l16 r => .solid (r.map Color.ofGray)
  | .la16 r => .veiled (r.map Rgba.ofGray)
  | .rgb16 r => .solid (r.map Color.ofSamples)
  | .rgba16 r => .veiled (r.map Rgba.ofSamples)
  | .rgb32f r => .solid (r.map Color.ofSamples)
  | .rgba32f r => .veiled (r.map Rgba.ofSamples)

end Picture
end Storefront
