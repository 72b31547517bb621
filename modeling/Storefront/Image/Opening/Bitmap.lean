import Storefront.Image.Opening

/-! The headers of BMP files. -/

namespace Storefront.Opening.Bitmap

inductive Coding where
  | plain
  | runs8
  | runs4
  | fields
deriving DecidableEq

def Coding.name : Coding → String
  | plain => "RGB"
  | runs8 => "RLE8"
  | runs4 => "RLE4"
  | fields => "Bitfields"

inductive Fault where
  | signature
  | shortHeader (size : Nat)
  | planes
  | width (n : Int)
  | size (width height : Int)
  | height
  | upsideDown (coding : Nat)
  | depth (coding : Coding) (bits : Nat)
  | coding (n : Nat)
  | palette (used bits : Nat)
deriving DecidableEq

def maxSide : Nat := 65535

def Fault.text : Fault → String
  | signature => "BMP signature not found"
  | shortHeader n => "Bitmap header too small (" ++ n.repr ++ " bytes)"
  | planes => "More than one plane"
  | width n => "Negative width (" ++ toString n ++ ")"
  | size w h =>
    "Image too large (one of (" ++ toString w ++ ", " ++ toString h ++ ") > soft limit of " ++
      maxSide.repr ++ ")"
  | height => "Invalid height"
  | upsideDown n => "Invalid image type " ++ n.repr ++ " for top-down image."
  | depth c n => "Invalid " ++ c.name ++ " channel bit count " ++ n.repr
  | coding n => "Unknown image compression type " ++ n.repr
  | palette used bits =>
    "Palette size " ++ used.repr ++ " exceeds maximum size for BMP with bit count of " ++ bits.repr

structure Layout where
  width : Nat
  height : Nat
  bits : Nat
  coding : Coding
  colorsUsed : Nat

def signed (n : Nat) : Int :=
  if n < 1 <<< 31 then n else (n : Int) - (1 <<< 32 : Nat)

def shortHeader : Opening Fault Layout := do
  let width ← low 2
  let height ← low 2
  check ((← low 2) = 1) .planes
  let bits ← low 2
  check ([1, 4, 8, 24].contains bits) (.depth .plain bits)
  return ⟨width, height, bits, .plain, 0⟩

def coding (n bits : Nat) : Opening Fault Coding := do
  match n with
  | 0 =>
    check ([1, 2, 4, 8, 16, 24, 32].contains bits) (.depth .plain bits)
    return .plain
  | 1 =>
    check (bits = 8) (.depth .runs8 bits)
    return .runs8
  | 2 =>
    check (bits = 4) (.depth .runs4 bits)
    return .runs4
  | 3 =>
    check (bits = 16 || bits = 32) (.depth .fields bits)
    return .fields
  | 4 => stop (.feature "JPEG compression")
  | 5 => stop (.feature "PNG compression")
  | n => fail (.coding n)

/-- The longer headers. A height below zero says that the first row is the top one. -/
def longHeader : Opening Fault Layout := do
  let width := signed (← low 4)
  let height := signed (← low 4)
  check (0 ≤ width) (.width width)
  check (width ≤ maxSide && height ≤ maxSide) (.size width height)
  check (height ≠ signed (1 <<< 31)) .height
  check ((← low 2) = 1) .planes
  let bits ← low 2
  let n ← low 4
  check (0 ≤ height || n = 0 || n = 3) (.upsideDown n)
  let coding ← coding n bits
  skip 12
  let used ← low 4
  skip 4
  return ⟨width.natAbs, height.natAbs, bits, coding, used⟩

def longLengths : List Nat := [40, 52, 56, 108, 124]

def header (length : Nat) : Opening Fault Layout :=
  if length = 12 then shortHeader
  else if longLengths.contains length then longHeader
  else if length < 12 then fail (.shortHeader length)
  else stop (.feature ("Unknown bitmap header type (size=" ++ length.repr ++ ")"))

/-- The colors in a palette; without a number of them there are as many as the pixels can name. -/
def paletteSize (l : Layout) : Opening Fault Nat := do
  let most := 1 <<< l.bits
  check (l.colorsUsed ≤ most) (.palette l.colorsUsed l.bits)
  return if l.colorsUsed = 0 then most else l.colorsUsed

/-- The bytes of the pixels, each row in whole words. -/
def dataSize (l : Layout) : Nat :=
  (l.bits * l.width + 31) / 32 * 4 * l.height

def layout (file : List UInt8) (start : Nat) : Opening Fault Layout := do
  set (file.drop start)
  let length ← low 4
  let l ← header length
  if l.coding = .fields then skip 12
  set (file.drop (start + length))
  if l.bits ≤ 8 then skip (min 256 (← paletteSize l) * if length = 12 then 3 else 4)
  return l

def pixels (l : Layout) : Opening Fault Unit :=
  if l.coding = .plain || l.coding = .fields then skip (dataSize l) else pure ()

def opening : Opening Fault Unit := do
  let file ← get
  check ((← take 2) = [66, 77]) .signature
  skip 8
  let place ← low 4
  let l ← layout file 14
  reserve (l.width * l.height * if l.bits = 32 then 4 else 3)
  set (file.drop place)
  pixels l

end Storefront.Opening.Bitmap
