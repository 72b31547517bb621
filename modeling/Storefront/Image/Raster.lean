import Storefront.Geometry.Dimensions

/-! Rectangular grids of pixels, stored row after row. -/

namespace Storefront

structure Raster (α : Type) where
  size : Dimensions
  pixels : Array α
  pixels_size : pixels.size = size.area

namespace Raster

variable {α β : Type}

theorem index_lt {d : Dimensions} {x y : Nat} (hx : x < d.width.toNat) (hy : y < d.height.toNat) :
    y * d.width.toNat + x < d.area := by
  have : y * d.width.toNat + d.width.toNat ≤ d.height.toNat * d.width.toNat := by
    rw [← Nat.succ_mul]; exact Nat.mul_le_mul_right _ hy
  rw [Dimensions.area, Nat.mul_comm d.width.toNat]; omega

def get (r : Raster α) (x y : Nat) (hx : x < r.size.width.toNat) (hy : y < r.size.height.toNat) : α :=
  have : y * r.size.width.toNat + x < r.pixels.size := r.pixels_size ▸ index_lt hx hy
  r.pixels[y * r.size.width.toNat + x]

def get? (r : Raster α) (x y : Nat) : Option α :=
  if h : x < r.size.width.toNat ∧ y < r.size.height.toNat then some (r.get x y h.1 h.2) else none

def ofFn (size : Dimensions) (f : Nat → Nat → α) : Raster α where
  size := size
  pixels := Array.ofFn fun i : Fin size.area =>
    f (i.val % size.width.toNat) (i.val / size.width.toNat)
  pixels_size := by simp

def map (f : α → β) (r : Raster α) : Raster β where
  size := r.size
  pixels := r.pixels.map f
  pixels_size := by simpa using r.pixels_size

def ofArray? (size : Dimensions) (pixels : Array α) : Option (Raster α) :=
  if h : pixels.size = size.area then some ⟨size, pixels, h⟩ else none

/-- The raster with another pixel in column `x` of row `y`, itself when that lies outside. -/
def set (r : Raster α) (x y : Nat) (p : α) : Raster α where
  size := r.size
  pixels :=
    if x < r.size.width.toNat then r.pixels.setIfInBounds (y * r.size.width.toNat + x) p
    else r.pixels
  pixels_size := by split <;> simp [r.pixels_size]

def row (r : Raster α) (y : Nat) : Array α :=
  r.pixels.extract (y * r.size.width.toNat) ((y + 1) * r.size.width.toNat)

@[simp] theorem size_ofFn (d : Dimensions) (f : Nat → Nat → α) : (ofFn d f).size = d := rfl

@[simp] theorem size_map (f : α → β) (r : Raster α) : (r.map f).size = r.size := rfl

@[simp] theorem size_set (r : Raster α) (x y : Nat) (p : α) : (r.set x y p).size = r.size := rfl

theorem get_ofFn (d : Dimensions) (f : Nat → Nat → α) {x y : Nat}
    (hx : x < d.width.toNat) (hy : y < d.height.toNat) : (ofFn d f).get x y hx hy = f x y := by
  simp only [get, ofFn, Array.getElem_ofFn]
  rw [Nat.mul_comm, Nat.mul_add_mod, Nat.mod_eq_of_lt hx, Nat.mul_add_div (by omega),
    Nat.div_eq_of_lt hx, Nat.add_zero]

theorem get_map (f : α → β) (r : Raster α) {x y : Nat}
    (hx : x < r.size.width.toNat) (hy : y < r.size.height.toNat) :
    (r.map f).get x y hx hy = f (r.get x y hx hy) := by
  simp [get, map]

end Raster
end Storefront
