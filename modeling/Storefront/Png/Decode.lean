import Storefront.Image.Picture
import Storefront.Png.ImageData
import Storefront.Png.Layer

/-! Pictures from PNG files. -/

namespace Storefront.Png

/-- Gray of few bits, spread over the levels of eight. -/
def spread (d : Depth) (v : UInt16) : UInt8 :=
  (v.toNat * (255 / (1 <<< d.bits - 1))).toUInt8

def paletteColor (palette : Array UInt8) (i : Nat) : Color :=
  if 3 * i + 2 < palette.size then
    ⟨palette.getD (3 * i) 0, palette.getD (3 * i + 1) 0, palette.getD (3 * i + 2) 0⟩
  else ⟨0, 0, 0⟩

def alphaOf {S : Type} (full : S) [OfNat S 0] (hidden : Bool) : S :=
  if hidden then 0 else full

/-- The picture with the given samples. A transparency chunk adds an alpha channel. -/
def assemble (p : Preface) (sample : Nat → Nat → Nat → UInt16) : Picture :=
  let h := p.header
  let byte (x y c : Nat) : UInt8 := (sample x y c).toUInt8
  let rgb (x y : Nat) : List UInt16 := [sample x y 0, sample x y 1, sample x y 2]
  let palette := (p.palette.getD []).toArray
  match h.color, h.depth, p.transparency with
  | .gray, .sixteen, none => .l16 (.ofFn h.size fun x y => sample x y 0)
  | .gray, .sixteen, some t =>
    .la16 (.ofFn h.size fun x y => ⟨sample x y 0, alphaOf 65535 (t.hides [sample x y 0])⟩)
  | .gray, d, none => .l8 (.ofFn h.size fun x y => spread d (sample x y 0))
  | .gray, d, some t =>
    .la8 (.ofFn h.size fun x y =>
      ⟨spread d (sample x y 0), alphaOf 255 (t.hides [sample x y 0])⟩)
  | .rgb, .sixteen, none => .rgb16 (.ofFn h.size fun x y => ⟨sample x y 0, sample x y 1, sample x y 2⟩)
  | .rgb, .sixteen, some t =>
    .rgba16 (.ofFn h.size fun x y =>
      ⟨sample x y 0, sample x y 1, sample x y 2, alphaOf 65535 (t.hides (rgb x y))⟩)
  | .rgb, _, none => .rgb8 (.ofFn h.size fun x y => ⟨byte x y 0, byte x y 1, byte x y 2⟩)
  | .rgb, _, some t =>
    .rgba8 (.ofFn h.size fun x y =>
      ⟨byte x y 0, byte x y 1, byte x y 2, alphaOf 255 (t.hides (rgb x y))⟩)
  | .indexed, _, none => .rgb8 (.ofFn h.size fun x y => paletteColor palette (sample x y 0).toNat)
  | .indexed, _, some t =>
    let alphas := t.alphas.toArray
    .rgba8 (.ofFn h.size fun x y =>
      let i := (sample x y 0).toNat
      let c := paletteColor palette i
      ⟨c.red, c.green, c.blue, alphas.getD i 255⟩)
  | .grayAlpha, .sixteen, _ => .la16 (.ofFn h.size fun x y => ⟨sample x y 0, sample x y 1⟩)
  | .grayAlpha, _, _ => .la8 (.ofFn h.size fun x y => ⟨byte x y 0, byte x y 1⟩)
  | .rgba, .sixteen, _ =>
    .rgba16 (.ofFn h.size fun x y => ⟨sample x y 0, sample x y 1, sample x y 2, sample x y 3⟩)
  | .rgba, _, _ =>
    .rgba8 (.ofFn h.size fun x y => ⟨byte x y 0, byte x y 1, byte x y 2, byte x y 3⟩)

/-- What comes after the signature, which is looked at four bytes at a time. -/
def readSignature (bytes : List UInt8) : Except Error (List UInt8) :=
  match bytes with
  | a :: b :: c :: d :: rest =>
    if [a, b, c, d] ≠ signature.take 4 then .error .signature
    else match rest with
      | e :: f :: g :: h :: rest =>
        if [e, f, g, h] ≠ signature.drop 4 then .error .signature else .ok rest
      | _ => .error .endOfFile
  | _ => .error .endOfFile

def addressable : Nat := 1 <<< 63

def readHeader (bytes : List UInt8) : Except Error (Header × List UInt8) := do
  let (length, kind, bytes) ← readStart bytes
  if kind ≠ Chunk.header then throw (.beforeHeader kind)
  let (content, bytes) ← readAncillary length kind bytes
  let h ← Header.read (content.getD [])
  if addressable ≤ h.pictureBytes false then throw .tooLarge
  return (h, bytes)

def decodeWithin (room : Option Nat) (bytes : List UInt8) : Except Error (Header × Picture) := do
  let rest ← readSignature bytes
  let (header, rest) ← readHeader rest
  let (p, length, rest) ← readPreface rest.length (.ofHeader header) rest
  if room.any (· < header.pictureBytes p.transparency.isSome) then throw .tooLarge
  let data ← ImageData.read p rest.length (bytes.length - rest.length) length rest
  let layers ← readLayers header header.passes data
  return (header, assemble p (sampleAt header layers))

def decode (bytes : List UInt8) : Except Error (Header × Picture) :=
  decodeWithin none bytes

end Storefront.Png
