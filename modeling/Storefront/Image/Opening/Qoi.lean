import Storefront.Image.Opening

/-! The headers of QOI files, and how much their pixels take. -/

namespace Storefront.Opening.Qoi

inductive Fault where
  | channels (n : Nat)
  | colorSpace (n : Nat)
  | signature (found : List UInt8)
  | size (width height : Nat)
  | padding
deriving DecidableEq

def signature : List UInt8 := [113, 111, 105, 102]

def Fault.text : Fault → String
  | channels n => "invalid number of channels: " ++ n.repr
  | colorSpace n => "invalid color space: " ++ n.repr ++ " (expected 0 or 1)"
  | signature found =>
    "invalid magic: expected " ++ (bigEndian Qoi.signature).repr ++ ", got [" ++
      ", ".intercalate (found.map fun b => b.toNat.repr) ++ "]"
  | size w h => "invalid image dimensions: " ++ w.repr ++ "x" ++ h.repr
  | padding => "invalid padding (stream end marker)"

def maxPixels : Nat := 400000000

def ending : List UInt8 := [0, 0, 0, 0, 0, 0, 0, 1]

/-- The bytes that follow a tag, and the pixels that it stands for. -/
def reach (tag : Nat) : Nat × Nat :=
  if tag = 255 then (4, 1)
  else if tag = 254 then (3, 1)
  else if 192 ≤ tag then (0, tag % 64 + 1)
  else if 128 ≤ tag ∧ tag < 192 then (1, 1)
  else (0, 1)

/-- Passes over so many pixels. Every tag takes a byte. -/
def pixels : Nat → Nat → Opening Fault Unit
  | 0, _ => stop .cut
  | fuel + 1, left =>
    if left = 0 then pure ()
    else do
      let (bytes, n) := reach (← byte)
      skip bytes
      pixels fuel (left - n)

def opening : Opening Fault Unit := do
  let found ← take 4
  let width ← high 4
  let height ← high 4
  let channels ← byte
  let space ← byte
  check (channels = 3 || channels = 4) (.channels channels)
  check (space ≤ 1) (.colorSpace space)
  check (found = signature) (.signature found)
  check (0 < width * height && width * height ≤ maxPixels) (.size width height)
  reserve (width * height * channels)
  pixels ((← get).length + 1) (width * height)
  check ((← take 8) = ending) .padding

end Storefront.Opening.Qoi
