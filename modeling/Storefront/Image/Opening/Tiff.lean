import Storefront.Image.Opening

/-! The headers of TIFF files, and the tags of their first directory. -/

namespace Storefront.Opening.Tiff

inductive Fault where
  | signature
  | version
  | noDirectory
  | tagMissing (name : String)
deriving DecidableEq

def Fault.text : Fault → String
  | signature => "format error: TIFF signature not found"
  | version => "format error: TIFF signature invalid"
  | noDirectory => "format error: Image file directory not found"
  | tagMissing name => "format error: Required tag \x60" ++ name ++ "\x60 not found."

def tags (number : Nat → Opening Fault Nat) (bytes : Nat) : Nat → Opening Fault (List Nat)
  | 0 => pure []
  | n + 1 => do
    let tag ← number 2
    skip (bytes - 2)
    return tag :: (← tags number bytes n)

/-- Files in which places have four bytes, and others in which they have eight. -/
def opening : Opening Fault Unit := do
  let file ← get
  let isLow := file.take 2 == [73, 73]
  check (isLow || file.take 2 == [77, 77]) .signature
  skip 2
  let number : Nat → Opening Fault Nat := if isLow then low else high
  let version ← number 2
  check (version = 42 || version = 43) .version
  let isBig : Bool := version = 43
  if isBig then
    check ((← number 2) = 8) .version
    check ((← number 2) = 0) .version
  let place ← number (if isBig then 8 else 4)
  check (place ≠ 0) .noDirectory
  set (file.drop place)
  let count ← number (if isBig then 8 else 2)
  if (← get).length < count then stop .cut
  let found ← tags number (if isBig then 20 else 12) count
  skip (if isBig then 8 else 4)
  check (found.contains 256) (.tagMissing "ImageWidth")
  check (found.contains 257) (.tagMissing "ImageLength")

end Storefront.Opening.Tiff
