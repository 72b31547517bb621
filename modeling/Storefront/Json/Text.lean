import Storefront.Json.Reader

/-! Strings of JSON texts: reading them, passing over them, and writing them. -/

namespace Storefront.Json

open Reader

def hexValue? (c : Char) : Option Nat :=
  if '0' ≤ c ∧ c ≤ '9' then some (c.toNat - 48)
  else if 'a' ≤ c ∧ c ≤ 'f' then some (c.toNat - 87)
  else if 'A' ≤ c ∧ c ≤ 'F' then some (c.toNat - 55)
  else none

def fourHex? (a b c d : Char) : Option Nat := do
  let a ← hexValue? a
  let b ← hexValue? b
  let c ← hexValue? c
  let d ← hexValue? d
  return ((a * 16 + b) * 16 + c) * 16 + d

/-- Four hexadecimal digits. Four bytes are looked at together, so a fault lies behind them, or
at the end of a text that has fewer. -/
def hexEscape : Reader Nat := fun c =>
  match c.rest with
  | x :: y :: z :: w :: rest =>
    match fourHex? x y z w with
    | some n =>
      (.ok n, ⟨rest, [x, y, z, w].foldl Cursor.moved c.position⟩)
    | none => fault c
  | _ => fault c
where
  fault (c : Cursor) : Except Fault Nat × Cursor :=
    match Cursor.bytesOn 4 c.position c.rest with
    | (p, true) => (.error ⟨.invalidEscape, some p⟩, c)
    | (p, false) => (.error ⟨.endOfString, some p⟩, c)

def isLeading (n : Nat) : Bool := 0xD800 ≤ n && n ≤ 0xDBFF

def isTrailing (n : Nat) : Bool := 0xDC00 ≤ n && n ≤ 0xDFFF

def half (x : Char) : Reader Unit := do
  match ← peek with
  | none => failHere .endOfString
  | some c => if c = x then eat else failAhead .endOfHexEscape

/-- The character of `\u` escapes, two of them for one beyond the first 65536. -/
def unicodeEscape : Reader Char := do
  let n ← hexEscape
  if isTrailing n then failHere .loneSurrogate
  else if isLeading n then do
    half '\\'
    half 'u'
    let m ← hexEscape
    if isTrailing m then return Char.ofNat (0x10000 + (n - 0xD800) * 0x400 + (m - 0xDC00))
    else failHere .loneSurrogate
  else return Char.ofNat n

def simpleEscape? (c : Char) : Option Char :=
  match c with
  | '"' => some '"'
  | '\\' => some '\\'
  | '/' => some '/'
  | 'b' => some '\x08'
  | 'f' => some '\x0c'
  | 'n' => some '\n'
  | 'r' => some '\r'
  | 't' => some '\t'
  | _ => none

def escape : Reader Char := do
  match ← peek with
  | none => failHere .endOfString
  | some c =>
    match simpleEscape? c with
    | some x => do
      eat
      return x
    | none => if c = 'u' then do eat; unicodeEscape else failAhead .invalidEscape

def isControl (c : Char) : Bool := c.toNat < 0x20

/-- The characters up to the closing quote. Each takes a character of the text at least. -/
def stringRest : Nat → Reader (List Char)
  | 0 => failHere .endOfString
  | fuel + 1 => do
    match ← peek with
    | none => failHere .endOfString
    | some c =>
      if c = '"' then do
        eat
        return []
      else if c = '\\' then do
        eat
        let x ← escape
        return x :: (← stringRest fuel)
      else if isControl c then failAhead .controlCharacter
      else do
        eat
        return c :: (← stringRest fuel)

def stringBody : Reader String := do
  return String.ofList (← stringRest ((← remaining) + 1))

/-- What follows a backslash in a string that is passed over: the halves of a character are not
put together. -/
def skipEscape : Reader Unit := do
  match ← peek with
  | none => failHere .endOfString
  | some c =>
    match simpleEscape? c with
    | some _ => eat
    | none => if c = 'u' then do eat; discard hexEscape else failAhead .invalidEscape

def skipStringRest : Nat → Reader Unit
  | 0 => failHere .endOfString
  | fuel + 1 => do
    match ← peek with
    | none => failHere .endOfString
    | some c =>
      if c = '"' then eat
      else if c = '\\' then do
        eat
        skipEscape
        skipStringRest fuel
      else if isControl c then failHere .controlCharacter
      else do
        eat
        skipStringRest fuel

def skipString : Reader Unit := do
  skipStringRest ((← remaining) + 1)

def hexChar (n : Nat) : Char :=
  if n < 10 then Char.ofNat (48 + n) else Char.ofNat (87 + n)

def writeChar (c : Char) : List Char :=
  match c with
  | '"' => ['\\', '"']
  | '\\' => ['\\', '\\']
  | '\x08' => ['\\', 'b']
  | '\x0c' => ['\\', 'f']
  | '\n' => ['\\', 'n']
  | '\r' => ['\\', 'r']
  | '\t' => ['\\', 't']
  | c =>
    if isControl c then ['\\', 'u', '0', '0', hexChar (c.toNat / 16), hexChar (c.toNat % 16)]
    else [c]

def writeString (s : String) : List Char :=
  '"' :: s.toList.flatMap writeChar ++ ['"']

end Storefront.Json
