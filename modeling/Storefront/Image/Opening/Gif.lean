import Storefront.Image.Opening

/-! The headers of GIF files, and what stands before their first picture. -/

namespace Storefront.Opening.Gif

inductive Fault where
  | signature
  | blockKind
deriving DecidableEq

def Fault.text : Fault → String
  | signature => "malformed GIF header"
  | blockKind => "unknown block type encountered"

def signatures : List (List UInt8) :=
  [[71, 73, 70, 56, 55, 97], [71, 73, 70, 56, 57, 97]]

def palette (flags : Nat) : Opening Fault Unit :=
  if 128 ≤ flags then skip (3 * (2 <<< (flags % 8))) else pure ()

/-- Data in parts that begin with their lengths; an empty one is the last. -/
def parts : Nat → Opening Fault Unit
  | 0 => stop .cut
  | fuel + 1 => do
    let n ← byte
    if n ≠ 0 then
      skip n
      parts fuel

def blocks : Nat → Nat → Opening Fault Unit
  | 0, _ => stop .cut
  | fuel + 1, kind =>
    match kind with
    | 0x2C => do
      skip 8
      palette (← byte)
      skip 1
      parts (← get).length
    | 0x21 => do
      skip 1
      parts (← get).length
      blocks fuel (← byte)
    | 0x3B => stop .noPicture
    | _ => fail .blockKind

def opening : Opening Fault Unit := do
  check (signatures.contains (← take 6)) .signature
  let width ← low 2
  let height ← low 2
  let flags ← byte
  skip 2
  palette flags
  let kind ← byte
  reserve (4 * width * height)
  blocks ((← get).length + 1) kind

end Storefront.Opening.Gif
