import Storefront.Json.Kept
import Storefront.Path

/-! Formats: how the values of a type are read, from a text or from a value that was kept, and
how they are written. -/

namespace Storefront.Json

open Reader

structure Format (α : Type) where
  read : Nat → Reader α
  ofKept : Kept → Except Cause α
  write : α → List Char

namespace Format

variable {α : Type}

/-- Reads a string that stands for a value. A fault in it lies behind it. -/
def readString (expected : String) (value : String → Except Cause α) : Reader α := do
  let c ← peekValue
  if c = '"' then positioned do
    eat
    ofExcept (value (← stringBody))
  else wrongKind expected c

def keptString (expected : String) (value : String → Except Cause α) : Kept → Except Cause α
  | .string s => value s
  | v => .error (.invalidType v.found expected)

def ofString (expected : String) (value : String → Except Cause α) (text : α → String) :
    Format α where
  read _ := readString expected value
  ofKept := keptString expected value
  write a := writeString (text a)

def string : Format String :=
  ofString "a string" .ok id

def path : Format Path :=
  ofString "path string" (fun s => .ok ⟨s⟩) Path.text

def timestamp : Format Timestamp :=
  ofString "an RFC 3339 formatted date and time string"
    (fun s => (Timestamp.parse s).mapError .timestamp) Timestamp.display

def colorOf (s : String) : Except Cause Color :=
  (Color.parse s).mapError .color

/-- Colors are strings first, so a fault in one has no position of its own. -/
def color : Format Color where
  read depth := do ofExcept (colorOf (← string.read depth))
  ofKept v := do colorOf (← string.ofKept v)
  write c := writeString c.display

def uint32Of (n : Number) : Except Cause UInt32 :=
  match n with
  | .integer i =>
    if 0 ≤ i ∧ i < 4294967296 then .ok i.toNat.toUInt32
    else .error (.invalidValue n.found "u32")
  | .float _ => .error (.invalidType n.found "u32")

def uint32 : Format UInt32 where
  read _ := do
    let c ← peekValue
    if c = '-' ∨ c.isDigit then positioned do ofExcept (uint32Of (← Number.read))
    else wrongKind "u32" c
  ofKept v :=
    match v with
    | .number n => uint32Of n
    | v => .error (.invalidType v.found "u32")
  write n := n.toNat.repr.toList

def bool : Format Bool where
  read _ := do
    let c ← peekValue
    if c = 't' then do eat; word "rue".toList; return true
    else if c = 'f' then do eat; word "alse".toList; return false
    else wrongKind "a boolean" c
  ofKept v :=
    match v with
    | .boolean b => .ok b
    | v => .error (.invalidType v.found "a boolean")
  write b := if b then "true".toList else "false".toList

def commas : List (List Char) → List Char
  | [] => []
  | [t] => t
  | t :: ts => t ++ ',' :: commas ts

def list (item : Format α) : Format (List α) where
  read depth := do
    let c ← peekValue
    if c = '[' then
      positioned (bracketed depth (fun depth => allElements (item.read depth) true) endList)
    else wrongKind "a sequence" c
  ofKept v :=
    match v with
    | .list items => items.mapM item.ofKept
    | v => .error (.invalidType v.found "a sequence")
  write as := '[' :: commas (as.map item.write) ++ [']']

end Format

def parse {α : Type} (f : Format α) (text : String) : Except Fault α :=
  let whole : Reader α := do
    let a ← f.read maxDepth
    match ← peekToken with
    | none => return a
    | some _ => failAhead .trailingCharacters
  (whole (Cursor.ofText text)).1

def print {α : Type} (f : Format α) (a : α) : String :=
  String.ofList (f.write a)

end Storefront.Json
