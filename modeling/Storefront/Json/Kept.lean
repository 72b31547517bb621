import Storefront.Json.Layout

/-! Values that are kept until it is known what they are. -/

namespace Storefront.Json

open Reader

inductive Kept where
  | null
  | boolean (b : Bool)
  | number (n : Number)
  | string (s : String)
  | list (items : List Kept)
  | object (entries : List (String × Kept))

def Kept.found : Kept → Found
  | .null => .null
  | .boolean b => .boolean b
  | .number n => n.found
  | .string s => .string s
  | .list _ => .sequence
  | .object _ => .map

def plainValue (c : Char) : Reader Kept := do
  if c = 'n' then do eat; word "ull".toList; return .null
  else if c = 't' then do eat; word "rue".toList; return .boolean true
  else if c = 'f' then do eat; word "alse".toList; return .boolean false
  else if c = '-' ∨ c.isDigit then return .number (← Number.read)
  else if c = '"' then do eat; return .string (← stringBody)
  else failAhead .expectedValue

def peekValue : Reader Char := do
  match ← peekToken with
  | some c => return c
  | none => failAhead .endOfValue

def keepMember (value : Reader Kept) (entries : List (String × Kept)) (key : String) :
    Reader (List (String × Kept)) := do
  colon
  return (key, ← value) :: entries

def keptList (value : Reader Kept) : Reader Kept := do
  eat
  return .list (← allElements value true)

def keptObject (value : Reader Kept) : Reader Kept := do
  eat
  return .object (← allMembers (keepMember value) []).reverse

def readKept : Nat → Reader Kept
  | 0 => failAhead .recursionLimit
  | depth + 1 => positioned do
    let c ← peekValue
    if c = '[' then
      if depth = 0 then failAhead .recursionLimit
      else closing (keptList (readKept depth)) endList
    else if c = '\x7b' then
      if depth = 0 then failAhead .recursionLimit
      else closing (keptObject (readKept depth)) endObject
    else plainValue c

/-- What a value that begins with `c` is. Lists and objects are not read. -/
def foundHere (c : Char) : Reader Found := do
  if c = '[' then return .sequence
  else if c = '\x7b' then return .map
  else return (← plainValue c).found

def wrongKind {α : Type} (expected : String) (c : Char) : Reader α := positioned do
  fail (.invalidType (← foundHere c) expected)

end Storefront.Json
