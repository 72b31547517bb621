/-! Sizes in pixels. -/

namespace Storefront

structure Dimensions where
  width : UInt32
  height : UInt32
deriving DecidableEq, Inhabited

namespace Dimensions

def isEmpty (d : Dimensions) : Bool :=
  d.width == 0 || d.height == 0

theorem isEmpty_iff {d : Dimensions} : d.isEmpty = true ↔ d.width = 0 ∨ d.height = 0 := by
  simp [isEmpty]

def area (d : Dimensions) : Nat :=
  d.width.toNat * d.height.toNat

def aspectRatio (d : Dimensions) : Float :=
  d.width.toFloat / d.height.toFloat

def display (d : Dimensions) : String :=
  d.width.toNat.repr ++ "x" ++ d.height.toNat.repr

def swap (d : Dimensions) : Dimensions :=
  ⟨d.height, d.width⟩

end Dimensions
end Storefront
