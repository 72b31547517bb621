import Storefront.Image.Opening

/-! The headers of TGA files, and how much their pixels take. -/

namespace Storefront.Opening.Targa

inductive Fault where
  | empty
  | mapMissing
  | indexDepth
  | indexTooWide
  | alphaTooWide
deriving DecidableEq

def Fault.text : Fault → String
  | empty => "Invalid empty image"
  | mapMissing => "Color map type must be 1 for color mapped images"
  | indexDepth => "Color map must use 1 or 2 byte indexes"
  | indexTooWide => "Indices larger than pixel values"
  | alphaTooWide => "More alpha bits than pixel bits"

/-- The kinds of pictures whose pixels are places in a map, that are in color, and that are written
in runs. -/
def mapped : List Nat := [1, 9]
def colored : List Nat := [1, 2, 9, 10]
def inRuns : List Nat := [9, 10, 11]

/-- The bits of an alpha channel, the other bits of a pixel, whether the picture is in color, and the
bytes of the pixel once it is read: the combinations that there are. -/
def pixelForms : List ((Nat × Nat × Bool) × Nat) :=
  [((0, 32, true), 4), ((8, 24, true), 4), ((0, 24, true), 3), ((1, 15, true), 3),
    ((0, 15, true), 3), ((0, 16, true), 3), ((8, 8, false), 2), ((0, 8, false), 1),
    ((8, 0, false), 1)]

/-- Passes over so many pixels in runs and in plain stretches. Each of these takes a byte. -/
def runs (pixelBytes : Nat) : Nat → Nat → Opening Fault Unit
  | 0, _ => stop .cut
  | fuel + 1, left =>
    if left = 0 then pure ()
    else do
      let n ← byte
      skip (if 128 ≤ n then pixelBytes else (n + 1) * pixelBytes)
      runs pixelBytes fuel (left - (n % 128 + 1))

def colorMap (entries entryBits : Nat) : Opening Fault Unit := do
  let n := (entryBits + 7) / 8
  if n < 2 || 4 < n then stop (.feature "Unsupported color map entry size")
  skip (n * entries)

def opening : Opening Fault Unit := do
  let nameLength ← byte
  let map ← byte
  let kind ← byte
  skip 2
  let entries ← low 2
  let entryBits ← byte
  skip 4
  let width ← low 2
  let height ← low 2
  let depth ← byte
  let alpha := (← byte) % 16
  check (0 < width && 0 < height) .empty
  if mapped.contains kind then
    check (map = 1) .mapMissing
    check (depth = 8 || depth = 16) .indexDepth
    check (depth ≤ entryBits) .indexTooWide
  let bits := if mapped.contains kind then entryBits else depth
  check (alpha ≤ bits) .alphaTooWide
  match pixelForms.lookup (alpha, bits - alpha, colored.contains kind) with
  | none => stop (.pixelDepth depth)
  | some bytes => do
    skip nameLength
    if map = 1 then colorMap entries entryBits
    reserve (width * height * bytes)
    let pixelBytes := (depth + 7) / 8
    if inRuns.contains kind then runs pixelBytes ((← get).length + 1) (width * height)
    else skip (width * height * pixelBytes)

end Storefront.Opening.Targa
