import Storefront.Json.Text
import Storefront.Json.Number

/-! The brackets, commas and colons between values. -/

namespace Storefront.Json

open Reader

/-- How many values may contain each other, and one more. -/
def maxDepth : Nat := 128

/-- The end of a list; runs also after a failure inside. -/
def endList : Reader Unit := do
  match ← peekToken with
  | some ']' => eat
  | some ',' => do
    eat
    if (← peekToken) = some ']' then failAhead .trailingComma else failAhead .trailingCharacters
  | some _ => failAhead .trailingCharacters
  | none => failAhead .endOfList

def endObject : Reader Unit := do
  match ← peekToken with
  | some '\x7d' => eat
  | some ',' => failAhead .trailingComma
  | some _ => failAhead .trailingCharacters
  | none => failAhead .endOfObject

/-- Whether another element follows, the cursor then at its beginning. -/
def nextElement (first : Bool) : Reader Bool := do
  match ← peekToken with
  | none => failAhead .endOfList
  | some c =>
    if c = ']' then return false
    else if first then return true
    else if c = ',' then do
      eat
      match ← peekToken with
      | none => failAhead .endOfValue
      | some c => if c = ']' then failAhead .trailingComma else return true
    else failAhead .expectedListCommaOrEnd

def keyHere (c : Char) : Reader (Option String) := do
  if c = '"' then do
    eat
    return some (← stringBody)
  else failAhead .keyMustBeString

def nextKey (first : Bool) : Reader (Option String) := do
  match ← peekToken with
  | none => failAhead .endOfObject
  | some c =>
    if c = '\x7d' then return none
    else if first then keyHere c
    else if c = ',' then do
      eat
      match ← peekToken with
      | none => failAhead .endOfValue
      | some c => if c = '\x7d' then failAhead .trailingComma else keyHere c
    else failAhead .expectedObjectCommaOrEnd

def colon : Reader Unit := do
  match ← peekToken with
  | some ':' => eat
  | some _ => failAhead .expectedColon
  | none => failAhead .endOfObject

section Loops

variable {α σ : Type}

/-- The elements of a list. Each takes a character at least. -/
def elements (item : Reader α) : Nat → Bool → Reader (List α)
  | 0, _ => failHere .endOfList
  | fuel + 1, first => do
    if ← nextElement first then do
      let a ← item
      return a :: (← elements item fuel false)
    else return []

def members (member : σ → String → Reader σ) : Nat → Bool → σ → Reader σ
  | 0, _, _ => failHere .endOfObject
  | fuel + 1, first, state => do
    match ← nextKey first with
    | none => return state
    | some key => members member fuel false (← member state key)

def allElements (item : Reader α) (first : Bool) : Reader (List α) := do
  elements item ((← remaining) + 1) first

def allMembers (member : σ → String → Reader σ) (start : σ) : Reader σ := do
  members member ((← remaining) + 1) true start

def bracketed (depth : Nat) (body : Nat → Reader α) (close : Reader Unit) : Reader α :=
  match depth with
  | depth + 2 => closing (do eat; body (depth + 1)) close
  | _ => failAhead .recursionLimit

end Loops

inductive Frame where
  | list
  | object
deriving DecidableEq

def skipKey : Reader Unit := do
  match ← peekToken with
  | some '"' => do
    eat
    skipString
    colon
  | some _ => failAhead .keyMustBeString
  | none => failAhead .endOfObject

def skipStart (f : Frame) : Reader Unit :=
  match f with
  | .list => pure ()
  | .object => skipKey

/-- Closes the brackets that end at the cursor. What is left are those in which another value
comes next, none when all are closed. -/
def closeFrames : Bool → List Frame → Reader (List Frame)
  | _, [] => return []
  | comma, f :: outer => do
    match ← peekToken with
    | none => failAhead (match f with | .list => .endOfList | .object => .endOfObject)
    | some c =>
      if c = ',' ∧ comma then do
        eat
        skipStart f
        return f :: outer
      else if c = (match f with | .list => ']' | .object => '\x7d') then do
        eat
        closeFrames true outer
      else if comma then
        failAhead (match f with
          | .list => .expectedListCommaOrEnd
          | .object => .expectedObjectCommaOrEnd)
      else do
        skipStart f
        return f :: outer

def skipToken (c : Char) : Reader (Option Frame) := do
  if c = 'n' then do eat; word "ull".toList; return none
  else if c = 't' then do eat; word "rue".toList; return none
  else if c = 'f' then do eat; word "alse".toList; return none
  else if c = '-' ∨ c.isDigit then do Number.skip; return none
  else if c = '"' then do eat; skipString; return none
  else if c = '[' then do eat; return some .list
  else if c = '\x7b' then do eat; return some .object
  else failAhead .expectedValue

def skipFrom : Nat → List Frame → Reader Unit
  | 0, _ => failHere .endOfValue
  | fuel + 1, frames => do
    match ← peekToken with
    | none => failAhead .endOfValue
    | some c =>
      let left ←
        match ← skipToken c with
        | none => closeFrames true frames
        | some f => closeFrames false (f :: frames)
      if left = [] then return () else skipFrom fuel left

def skipValue : Reader Unit := do
  skipFrom ((← remaining) + 1) []

end Storefront.Json
