import Storefront.Geometry.Dimensions
import Storefront.Png.Chunk

/-! The first chunk of a PNG file: the size of the picture and the form of its samples. -/

namespace Storefront.Png

structure Header where
  size : Dimensions
  depth : Depth
  color : ColorType
  interlaced : Bool
deriving DecidableEq

namespace Header

def orError {α : Type} (x : Option α) (e : Error) : Except Error α :=
  match x with
  | some a => .ok a
  | none => .error e

def read : List UInt8 → Except Error Header
  | w1 :: w2 :: w3 :: w4 :: h1 :: h2 :: h3 :: h4 :: depth :: color :: compression :: filter ::
      interlace :: _ => do
    let size : Dimensions := ⟨word w1 w2 w3 w4, word h1 h2 h3 h4⟩
    if size.isEmpty then throw .emptySize
    let d ← orError (Depth.ofByte? depth) (.bitDepth depth)
    let c ← orError (ColorType.ofByte? color) (.colorType color)
    if !c.allows d then throw (.depthOfColor c d)
    if compression ≠ 0 then throw (.compressionMethod compression)
    if filter ≠ 0 then throw (.filterMethod filter)
    if interlace = 0 then return ⟨size, d, c, false⟩
    else if interlace = 1 then return ⟨size, d, c, true⟩
    else throw (.interlaceMethod interlace)
  | _ => .error (.chunkLength Chunk.header)

def rowBytes (h : Header) (width : Nat) : Nat :=
  (width * h.color.channels * h.depth.bits + 7) / 8

/-- How far back the filters look: the bytes of a pixel, one at least. -/
def stride (h : Header) : Nat :=
  max 1 (h.color.channels * h.depth.bits / 8)

def pixelBytes (h : Header) (transparency : Bool) : Nat :=
  let channels :=
    match h.color with
    | .gray => if transparency then 2 else 1
    | .rgb | .indexed => if transparency then 4 else 3
    | .grayAlpha => 2
    | .rgba => 4
  if h.depth = .sixteen then 2 * channels else channels

def pictureBytes (h : Header) (transparency : Bool) : Nat :=
  h.size.area * h.pixelBytes transparency

end Header
end Storefront.Png
