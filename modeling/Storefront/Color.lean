import Storefront.Text.Blank
import Storefront.Text.Quoted

/-! Pixels of three channels, and colors written `#rrggbb`. -/

namespace Storefront

structure Rgb (S : Type) where
  red : S
  green : S
  blue : S
deriving DecidableEq

abbrev Color := Rgb UInt8

namespace Color

def white : Color := ⟨255, 255, 255⟩

def black : Color := ⟨0, 0, 0⟩

instance : Inhabited Color := ⟨white⟩

def hexDigit (n : UInt8) : Char :=
  if n < 10 then Char.ofNat (48 + n.toNat) else Char.ofNat (87 + n.toNat)

def hexPair (n : UInt8) : List Char :=
  [hexDigit (n / 16), hexDigit (n % 16)]

def displayChars (c : Color) : List Char :=
  '#' :: (hexPair c.red ++ hexPair c.green ++ hexPair c.blue)

def display (c : Color) : String :=
  String.ofList c.displayChars

def digitValue? (c : Char) : Option UInt8 :=
  if '0' ≤ c ∧ c ≤ '9' then some (c.toNat - 48).toUInt8
  else if 'a' ≤ c ∧ c ≤ 'f' then some (c.toNat - 87).toUInt8
  else if 'A' ≤ c ∧ c ≤ 'F' then some (c.toNat - 55).toUInt8
  else none

/-- Two hexadecimal digits, or a plus sign and one. -/
def channel? (hi lo : Char) : Option UInt8 :=
  if hi = '+' then digitValue? lo
  else do
    let h ← digitValue? hi
    let l ← digitValue? lo
    return 16 * h + l

def dropHash : List Char → List Char
  | '#' :: s => s
  | s => s

def channels? : List Char → Option Color
  | [a, b, c, d, e, f] => do
    let red ← channel? a b
    let green ← channel? c d
    let blue ← channel? e f
    return ⟨red, green, blue⟩
  | _ => none

structure ParseError where
  input : String
deriving DecidableEq

def ParseError.message (e : ParseError) : String :=
  "invalid color " ++ Quoted.quote e.input ++ ": expected #rrggbb"

def parse (s : String) : Except ParseError Color :=
  match channels? (dropHash (trim s.toList)) with
  | some c => .ok c
  | none => .error ⟨s⟩

end Color
end Storefront
