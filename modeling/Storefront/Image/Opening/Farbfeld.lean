import Storefront.Image.Opening

/-! The headers of farbfeld files. -/

namespace Storefront.Opening.Farbfeld

inductive Fault where
  | cutHeader
  | signature (found : List UInt8)
deriving DecidableEq

def pairs (bytes : List UInt8) : String :=
  "[" ++ ", ".intercalate (bytes.map fun b => String.ofList (hexDigits 2 b.toNat)) ++ "]"

def Fault.text : Fault → String
  | cutHeader => "failed to fill whole buffer"
  | signature found => "Invalid magic: " ++ pairs found

def part (n : Nat) : Opening Fault (List UInt8) := fun bytes =>
  if bytes.length < n then .error (.fault .cutHeader) else .ok (bytes.take n, bytes.drop n)

def opening : Opening Fault Unit := do
  let found ← part 8
  check (found = [102, 97, 114, 98, 102, 101, 108, 100]) (.signature found)
  let width := bigEndian (← part 4)
  let height := bigEndian (← part 4)
  if 1 <<< 61 ≤ width * height then stop (.feature (oversizeText width height))
  reserve (8 * width * height)
  skip (8 * width * height)

end Storefront.Opening.Farbfeld
