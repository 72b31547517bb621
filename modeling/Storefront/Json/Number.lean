import Storefront.Json.Reader

/-! Numbers of JSON texts. -/

namespace Storefront.Json

open Reader

/-- A number: whole ones of at most 64 bits are exact. -/
inductive Number where
  | integer (n : Int)
  | float (x : Float)

def Number.found : Number → Found
  | .integer n => .integer n
  | .float x => .float x

namespace Number

def maxUnsigned : Nat := 18446744073709551615

def maxExponent : Nat := 2147483647

def digitOf (c : Char) : Nat := c.toNat - 48

def isExponentMark (c : Char) : Bool := c = 'e' || c = 'E'

def isNext (p : Char → Bool) : Reader Bool := do
  return (← peek).any p

/-- The digits at the cursor that keep the number below 2^64 are read; `exhausted` says that the
next digit does not. -/
def readDigits : Nat → Nat → Nat → Reader (Nat × Nat × Bool)
  | 0, n, count => return (n, count, false)
  | fuel + 1, n, count => do
    match ← peek with
    | none => return (n, count, false)
    | some c =>
      if c.isDigit then
        if maxUnsigned < 10 * n + digitOf c then return (n, count, true)
        else do
          eat
          readDigits fuel (10 * n + digitOf c) (count + 1)
      else return (n, count, false)

/-- `f * 10 ^ e`, dividing by powers of at most 308 tens. -/
def scale : Nat → Float → Int → Option Float
  | 0, f, _ => some f
  | fuel + 1, f, e =>
    if e.natAbs ≤ 308 then
      let power := Float.ofScientific 1 false e.natAbs
      if 0 ≤ e then
        let x := f * power
        if x.isInf then none else some x
      else some (f / power)
    else if f == 0 then some f
    else if 0 ≤ e then none
    else scale fuel (f / Float.ofScientific 1 false 308) (e + 308)

def signed (negative : Bool) (f : Float) : Float :=
  if negative then -f else f

def ofParts (negative : Bool) (significand : Nat) (e : Int) : Reader Number :=
  match scale 8 significand.toUInt64.toFloat e with
  | some f => return .float (signed negative f)
  | none => failHere .numberOutOfRange

def exponentDigits : Nat → Nat → Reader (Option Nat)
  | 0, n => return some n
  | fuel + 1, n => do
    match ← peek with
    | none => return some n
    | some c =>
      if c.isDigit then do
        eat
        if maxExponent < 10 * n + digitOf c then return none
        else exponentDigits fuel (10 * n + digitOf c)
      else return some n

def readExponent (negative : Bool) (significand : Nat) (start : Int) : Reader Number := do
  eat
  let next ← peek
  if next = some '+' ∨ next = some '-' then eat
  match ← peek with
  | none => failHere .endOfValue
  | some c =>
    if c.isDigit then do
      match ← exponentDigits ((← remaining) + 1) 0 with
      | some e => ofParts negative significand (if next = some '-' then start - e else start + e)
      | none =>
        if significand ≠ 0 ∧ next ≠ some '-' then failHere .numberOutOfRange
        else do
          skipWhile Char.isDigit
          return .float (signed negative 0)
    else failAhead .invalidNumber

def finish (negative : Bool) (significand : Nat) (e : Int) : Reader Number := do
  if ← isNext isExponentMark then readExponent negative significand e
  else ofParts negative significand e

/-- Decimal places after their point. Those that do not fit in 64 bits say nothing. -/
def readDecimal (negative : Bool) (significand : Nat) (start : Int) : Reader Number := do
  eat
  let (significand, count, exhausted) ← readDigits ((← remaining) + 1) significand 0
  if exhausted then do
    skipWhile Char.isDigit
    finish negative significand (start - count)
  else if count = 0 then do
    match ← peek with
    | none => failAhead .endOfValue
    | some _ => failAhead .invalidNumber
  else finish negative significand (start - count)

/-- The digits of a whole number that do not fit in 64 bits count as zeros. -/
def readLong (negative : Bool) (significand : Nat) : Reader Number := do
  let zeros ← takeWhile Char.isDigit
  if (← peek) = some '.' then readDecimal negative significand zeros.length
  else finish negative significand zeros.length

/-- A whole number, as long as nothing makes it another. A negative zero is none, and neither is
a negative number of more than 63 bits. -/
def ofWhole (negative : Bool) (n : Nat) : Number :=
  if !negative then .integer n
  else if n = 0 ∨ 9223372036854775808 < n then .float (-n.toUInt64.toFloat)
  else .integer (-n)

def readTail (negative : Bool) (n : Nat) : Reader Number := do
  match ← peek with
  | some '.' => readDecimal negative n 0
  | some c => if isExponentMark c then readExponent negative n 0 else return ofWhole negative n
  | none => return ofWhole negative n

def readUnsigned (negative : Bool) : Reader Number := do
  match ← peek with
  | none => failHere .endOfValue
  | some '0' => do
    eat
    if ← isNext Char.isDigit then failAhead .invalidNumber else readTail negative 0
  | some c =>
    if c.isDigit then do
      let (n, _, exhausted) ← readDigits ((← remaining) + 1) 0 0
      if exhausted then readLong negative n else readTail negative n
    else failAhead .invalidNumber

def read : Reader Number := do
  if (← peek) = some '-' then do
    eat
    readUnsigned true
  else readUnsigned false

def skipExponent : Reader Unit := do
  eat
  if ← isNext (fun c => c = '+' || c = '-') then eat
  if ← isNext Char.isDigit then skipWhile Char.isDigit else failAhead .invalidNumber

def skipDecimal : Reader Unit := do
  eat
  if ← isNext Char.isDigit then do
    skipWhile Char.isDigit
    if ← isNext isExponentMark then skipExponent
  else failAhead .invalidNumber

def skip : Reader Unit := do
  if (← peek) = some '-' then eat
  if (← peek) = some '0' then do
    eat
    if ← isNext Char.isDigit then failAhead .invalidNumber
  else if ← isNext Char.isDigit then skipWhile Char.isDigit
  else failAhead .invalidNumber
  if (← peek) = some '.' then skipDecimal
  else if ← isNext isExponentMark then skipExponent

end Number
end Storefront.Json
