import Storefront.Decimal.Literal
import Storefront.Image.Opening
import Storefront.Text.Quoted

/-! The headers of portable bit maps, gray maps and pixel maps. -/

namespace Storefront.Opening.PortableMap

inductive Fault where
  | signature (found : List UInt8)
  | nonAscii (found : UInt8)
  | number (text : String) (e : Decimal.WholeFault)
  | newline (found : UInt8)
  | tooBright (n : Nat)
  | tooShort
deriving DecidableEq

def Fault.text : Fault → String
  | signature found =>
    "Expected magic constant for PNM: P1..P7, got [" ++
      ", ".intercalate (found.map fun b => markedHex 2 b.toNat) ++ "]"
  | nonAscii b => "Non-ASCII character " ++ markedHex 2 b.toNat ++ " in header"
  | number s e => "Error parsing " ++ Quoted.quote s ++ " as number in preamble: " ++ e.text
  | newline b => "Expected newline after P7 magic, got " ++ markedHex 2 b.toNat
  | tooBright n => "Image MAXVAL exceeds 65535: " ++ n.repr
  | tooShort => "Not enough data was provided to the Decoder to decode the image"

def isBlankByte (b : UInt8) : Bool :=
  [9, 10, 11, 12, 13, 32].contains b

/-- The next word and what follows the blank after it. A hash sign begins a comment up to the end of
the line, which does not end a word. -/
def word (inComment : Bool) (read : List Char) : List UInt8 → Except Fault (List Char × List UInt8)
  | [] => .ok (read.reverse, [])
  | b :: rest =>
    let endsLine := b = 10 || b = 13
    if inComment then word (!endsLine) read rest
    else if b = 35 then word true read rest
    else if isBlankByte b then
      if read.isEmpty then word false read rest else .ok (read.reverse, rest)
    else if 128 ≤ b then .error (.nonAscii b)
    else word false (Char.ofNat b.toNat :: read) rest

def number : Opening Fault Nat := fun bytes =>
  match word false [] bytes with
  | .error e => .error (.fault e)
  | .ok ([], _) => .error .ended
  | .ok (s, rest) =>
    match Decimal.whole (1 <<< 32) s with
    | .ok n => .ok (n, rest)
    | .error e => .error (.fault (.number (String.ofList s) e))

def data (n : Nat) : Opening Fault Unit := do
  reserve n
  check (n ≤ (← get).length) .tooShort

def opening : Opening Fault Unit := do
  let found ← take 2
  match found with
  | [80, 49] | [80, 52] => do
    let width ← number
    let height ← number
    if found = [80, 52] then data ((width + 7) / 8 * height)
  | [80, 50] | [80, 51] | [80, 53] | [80, 54] => do
    let width ← number
    let height ← number
    let brightest ← number
    check (brightest ≤ 65535) (.tooBright brightest)
    let channels := if found = [80, 51] ∨ found = [80, 54] then 3 else 1
    if found = [80, 53] ∨ found = [80, 54] then
      data (width * height * channels * if brightest ≤ 255 then 1 else 2)
  | [80, 55] => do
    match ← get with
    | [] => stop .ended
    | b :: _ => check (b = 10) (.newline b)
  | _ => fail (.signature found)

end Storefront.Opening.PortableMap
