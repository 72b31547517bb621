import Storefront.Png.Header

/-! The passes in which the pixels of a PNG picture are written. -/

namespace Storefront.Png

/-- The pixels in every `stepX`th column from `startX` on and every `stepY`th row from `startY` on. -/
structure Pass where
  startX : Nat
  startY : Nat
  stepX : Nat
  stepY : Nat
deriving DecidableEq

namespace Pass

def whole : Pass := ⟨0, 0, 1, 1⟩

def interlaced : List Pass :=
  [⟨0, 0, 8, 8⟩, ⟨4, 0, 8, 8⟩, ⟨0, 4, 4, 8⟩, ⟨2, 0, 4, 4⟩, ⟨0, 2, 2, 4⟩, ⟨1, 0, 2, 2⟩, ⟨0, 1, 1, 2⟩]

def count (start step n : Nat) : Nat :=
  (n - start + (step - 1)) / step

def columns (p : Pass) (d : Dimensions) : Nat :=
  count p.startX p.stepX d.width.toNat

def lines (p : Pass) (d : Dimensions) : Nat :=
  count p.startY p.stepY d.height.toNat

def rows (p : Pass) (d : Dimensions) : Nat :=
  if p.columns d = 0 then 0 else p.lines d

def visits (p : Pass) (x y : Nat) : Bool :=
  p.startX ≤ x && p.startY ≤ y && (x - p.startX) % p.stepX == 0 && (y - p.startY) % p.stepY == 0

def index (p : Pass) (d : Dimensions) (x y : Nat) : Nat :=
  (y - p.startY) / p.stepY * p.columns d + (x - p.startX) / p.stepX

end Pass

namespace Header

def passes (h : Header) : List Pass :=
  if h.interlaced then Pass.interlaced else [Pass.whole]

def rowGroups (h : Header) : List (Nat × Nat) :=
  h.passes.map fun p => (p.rows h.size, h.rowBytes (p.columns h.size) + 1)

/-- The room for image data: that of the rows of all passes. A pass without columns has a byte for
each of its lines. -/
def dataRoom (h : Header) : Nat :=
  h.passes.foldl (fun n p => n + p.lines h.size * (h.rowBytes (p.columns h.size) + 1)) 0

end Header

end Storefront.Png
