import Storefront.Color
import Storefront.Image.Raster

/-! Scaling with a windowed sinc of three lobes, rows first joined and then columns, in single
precision. -/

namespace Storefront

structure Light where
  red : Float32
  green : Float32
  blue : Float32
deriving Inhabited

namespace Light

def ofColor (c : Color) : Light :=
  ⟨c.red.toFloat32, c.green.toFloat32, c.blue.toFloat32⟩

def addScaled (a p : Light) (w : Float32) : Light :=
  ⟨a.red + p.red * w, a.green + p.green * w, a.blue + p.blue * w⟩

/-- The nearest level, a half going up. -/
def level (v : Float32) : UInt8 :=
  (if v < 0 then 0 else if 255 < v then 255 else v).round.toUInt8

def toColor (p : Light) : Color :=
  ⟨level p.red, level p.green, level p.blue⟩

end Light

namespace Resample

def pi : Float32 := Float32.ofBits 0x40490FDB

def sinc (t : Float32) : Float32 :=
  let a := t * pi
  if t == 0 then 1 else a.sin / a

def lanczos (x : Float32) : Float32 :=
  if x.abs < 3 then sinc x * sinc (x / 3) else 0

/-- The samples that an output sample is made of: a weight for each from `first` on. -/
structure Window where
  first : Nat
  weights : Array Float32
deriving Inhabited

def clampIndex (v : Float32) (lo hi : Nat) : Nat :=
  if v < 0 then lo else max lo (min hi v.toUInt64.toNat)

def window (n m : UInt32) (o : Nat) : Window :=
  let ratio := n.toFloat32 / m.toFloat32
  let stretch := if ratio < 1 then 1 else ratio
  let support := 3 * stretch
  let center := (o.toUInt32.toFloat32 + 0.5) * ratio
  let left := clampIndex (center - support).floor 0 (n.toNat - 1)
  let right := clampIndex (center + support).ceil (left + 1) n.toNat
  let center := center - 0.5
  let raw := Array.ofFn fun i : Fin (right - left) =>
    lanczos (((left + i.val).toUInt32.toFloat32 - center) / stretch)
  let total := raw.foldl (· + ·) 0
  ⟨left, raw.map (· / total)⟩

def windows (n m : UInt32) : Array Window :=
  Array.ofFn fun o : Fin m.toNat => window n m o.val

def Window.gather (w : Window) (sample : Nat → Light) : Light :=
  (w.weights.foldl (fun s weight => (s.1.addScaled (sample s.2) weight, s.2 + 1))
    ((⟨0, 0, 0⟩ : Light), w.first)).1

def stretchRows (r : Raster Color) (height : UInt32) : Raster Light :=
  let ws := windows r.size.height height
  let w := r.size.width.toNat
  .ofFn ⟨r.size.width, height⟩ fun x y =>
    (ws.getD y default).gather fun i => Light.ofColor (r.pixels.getD (i * w + x) default)

def stretchColumns (r : Raster Light) (width : UInt32) : Raster Color :=
  let ws := windows r.size.width width
  let w := r.size.width.toNat
  .ofFn ⟨width, r.size.height⟩ fun x y =>
    ((ws.getD x default).gather fun i => r.pixels.getD (y * w + i) default).toColor

end Resample

def Raster.resample (r : Raster Color) (size : Dimensions) : Raster Color :=
  Resample.stretchColumns (Resample.stretchRows r size.height) size.width

@[simp] theorem Raster.size_resample (r : Raster Color) (size : Dimensions) :
    (r.resample size).size = size := rfl

end Storefront
