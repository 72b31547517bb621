import Storefront.Image.Picture

/-! Pictures laid over a background color. -/

namespace Storefront

/-- A sample over a background in the proportion of its alpha, rounded to the nearest level. -/
def blend (sample background alpha : UInt8) : UInt8 :=
  let a := alpha.toUInt32
  ((sample.toUInt32 * a + background.toUInt32 * (255 - a) + 127) / 255).toUInt8

def Rgba.over (p : Rgba UInt8) (background : Color) : Color where
  red := blend p.red background.red p.alpha
  green := blend p.green background.green p.alpha
  blue := blend p.blue background.blue p.alpha

def Bitmap.over (b : Bitmap) (background : Color) : Raster Color :=
  match b with
  | .solid r => r
  | .veiled r => r.map (·.over background)

def Bitmap.colors : Bitmap → Raster Color
  | .solid r => r
  | .veiled r => r.map Rgba.color

def Picture.flatten (p : Picture) (background : Color) : Raster Color :=
  p.bitmap.over background

@[simp] theorem Picture.size_flatten (p : Picture) (background : Color) :
    (p.flatten background).size = p.size := by
  cases p <;> rfl

end Storefront
