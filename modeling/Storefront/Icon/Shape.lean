import Storefront.Image.Raster

/-! Ellipses and arcs in boxes of whole pixels. -/

namespace Storefront

/-- A box of pixels, both corners included. -/
structure Box where
  left : Int
  top : Int
  right : Int
  bottom : Int
deriving DecidableEq

namespace Box

def around (x y radius : Int) : Box :=
  ⟨x - radius, y - radius, x + radius, y + radius⟩

def center (b : Box) : Float32 × Float32 :=
  (Float32.ofInt (b.left + b.right + 1) / 2, Float32.ofInt (b.top + b.bottom + 1) / 2)

def radii (b : Box) : Float32 × Float32 :=
  (Float32.ofInt (b.right + 1 - b.left) / 2, Float32.ofInt (b.bottom + 1 - b.top) / 2)

def span (lo hi : Int) (bound : Nat) : List Nat :=
  let first := lo.toNat
  List.range' first (min (hi + 1).toNat bound - first)

theorem mem_span {lo hi : Int} {bound n : Nat} :
    n ∈ span lo hi bound ↔ lo ≤ n ∧ (n : Int) ≤ hi ∧ n < bound := by
  simp only [span, List.mem_range'_1]
  omega

def positions (b : Box) (d : Dimensions) : List (Nat × Nat) :=
  (span b.top b.bottom d.height.toNat).flatMap fun y =>
    (span b.left b.right d.width.toNat).map fun x => (x, y)

def offset (b : Box) (x y : Nat) : Float32 × Float32 :=
  let c := b.center
  (Float32.ofNat x + 0.5 - c.1, Float32.ofNat y + 0.5 - c.2)

end Box

/-- The outline of the ellipse in `box`, from angle `start` to angle `stop` in degrees, drawn
inward with the given width; or, without these, all of the ellipse. -/
inductive Shape where
  | disc (box : Box)
  | arc (box : Box) (start stop width : Float32)

namespace Shape

def insideEllipse (dx dy rx ry : Float32) : Bool :=
  if rx ≤ 0 ∨ ry ≤ 0 then false
  else
    let u := dx / rx
    let v := dy / ry
    u * u + v * v ≤ 1

/-- Angles run clockwise; a sweep whose start is past its end goes through zero. -/
def inSweep (angle start stop : Float32) : Bool :=
  if start ≤ stop then start ≤ angle && angle ≤ stop else start ≤ angle || angle ≤ stop

def degreesPerRadian : Float32 := Float32.ofBits 0x42652EE1

/-- The direction of an offset in degrees, clockwise from the right, from 0 up to 360. -/
def angle (dx dy : Float32) : Float32 :=
  let a := Float32.atan2 dy dx * degreesPerRadian
  if a < 0 then a + 360 else a

def box : Shape → Box
  | .disc b => b
  | .arc b _ _ _ => b

def covers (s : Shape) (dx dy : Float32) : Bool :=
  match s with
  | .disc b => insideEllipse dx dy b.radii.1 b.radii.2
  | .arc b start stop width =>
    insideEllipse dx dy b.radii.1 b.radii.2 &&
      !insideEllipse dx dy (b.radii.1 - width) (b.radii.2 - width) &&
        inSweep (angle dx dy) start stop

def coversPixel (s : Shape) (x y : Nat) : Bool :=
  s.covers (s.box.offset x y).1 (s.box.offset x y).2

/-- The raster with the pixels of the shape in one color; what lies outside is not drawn. -/
def draw {α : Type} (s : Shape) (ink : α) (r : Raster α) : Raster α :=
  (s.box.positions r.size).foldl
    (fun r p => if s.coversPixel p.1 p.2 then r.set p.1 p.2 ink else r) r

end Shape
end Storefront
