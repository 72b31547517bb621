import Storefront.Png.Header

/-! Frames of animated PNG files. The picture of a file is its first frame, which fills the
canvas. -/

namespace Storefront.Png

namespace Frame

def next (number : Option UInt32) : Nat :=
  match number with
  | none => 0
  | some n => n.toNat + 1

def read (h : Header) (previous : Option UInt32) : List UInt8 → Except Error UInt32
  | [n1, n2, n3, n4, w1, w2, w3, w4, h1, h2, h3, h4, x1, x2, x3, x4, y1, y2, y3, y4, _, _, _, _,
      disposal, blending] => do
    let number := word n1 n2 n3 n4
    let size : Dimensions := ⟨word w1 w2 w3 w4, word h1 h2 h3 h4⟩
    if number.toNat ≠ next previous then throw (.frameOrder (next previous) number.toNat)
    if 2 < disposal then throw (.disposal disposal)
    if 1 < blending then throw (.blending blending)
    if size.isEmpty then throw .emptySize
    if size ≠ h.size ∨ word x1 x2 x3 x4 ≠ 0 ∨ word y1 y2 y3 y4 ≠ 0 then throw .frameBounds
    return number
  | _ => .error (.chunkLength Chunk.frameControl)

end Frame
end Storefront.Png
