import Storefront.Json.Fault

/-! Reading a text from left to right. A reader that fails leaves the cursor where it stopped. -/

namespace Storefront.Json

structure Cursor where
  rest : List Char
  position : Position

namespace Cursor

def ofText (text : String) : Cursor := ⟨text.toList, ⟨1, 0⟩⟩

def moved (p : Position) (c : Char) : Position :=
  if c = '\n' then ⟨p.line + 1, 0⟩ else ⟨p.line, p.column + c.utf8Size⟩

def ahead (c : Cursor) : Position :=
  match c.rest with
  | [] => c.position
  | x :: _ => if x = '\n' then moved c.position x else ⟨c.position.line, c.position.column + 1⟩

/-- The position `n` bytes further on, `none` past the end of the text, and the position at the
end. -/
def bytesOn : Nat → Position → List Char → Position × Bool
  | _, p, [] => (p, false)
  | n, p, x :: rest =>
    if n < x.utf8Size then (⟨p.line, p.column + n⟩, true)
    else if n = x.utf8Size then (moved p x, true)
    else bytesOn (n - x.utf8Size) (moved p x) rest

end Cursor

def Reader (α : Type) := Cursor → Except Fault α × Cursor

namespace Reader

variable {α β : Type}

instance : Monad Reader where
  pure a := fun c => (.ok a, c)
  bind r f := fun c =>
    match r c with
    | (.ok a, c) => f a c
    | (.error e, c) => (.error e, c)

/-- Fails at a position that is found out later. -/
def fail (cause : Cause) : Reader α := fun c => (.error ⟨cause, none⟩, c)

def failHere (cause : Cause) : Reader α := fun c => (.error ⟨cause, some c.position⟩, c)

def failAhead (cause : Cause) : Reader α := fun c => (.error ⟨cause, some c.ahead⟩, c)

def ofExcept : Except Cause α → Reader α
  | .ok a => pure a
  | .error cause => fail cause

def peek : Reader (Option Char) := fun c => (.ok c.rest.head?, c)

def remaining : Reader Nat := fun c => (.ok c.rest.length, c)

def eat : Reader Unit := fun c =>
  match c.rest with
  | [] => (.ok (), c)
  | x :: rest => (.ok (), ⟨rest, Cursor.moved c.position x⟩)

def isSpace (c : Char) : Bool :=
  c = ' ' || c = '\n' || c = '\t' || c = '\r'

def skipWhile (p : Char → Bool) : Reader Unit := fun c =>
  (.ok (), ⟨c.rest.dropWhile p, (c.rest.takeWhile p).foldl Cursor.moved c.position⟩)

def takeWhile (p : Char → Bool) : Reader (List Char) := fun c =>
  (.ok (c.rest.takeWhile p), ⟨c.rest.dropWhile p, (c.rest.takeWhile p).foldl Cursor.moved c.position⟩)

def peekToken : Reader (Option Char) := do
  skipWhile isSpace
  peek

/-- A failure without a position gets that of the cursor. -/
def positioned (r : Reader α) : Reader α := fun c =>
  match r c with
  | (.error ⟨cause, none⟩, c) => (.error ⟨cause, some c.position⟩, c)
  | other => other

/-- Runs `close` whether `body` fails or not; the first failure counts. -/
def closing (body : Reader α) (close : Reader Unit) : Reader α := fun c =>
  match body c with
  | (.ok a, c) =>
    match close c with
    | (.ok (), c) => (.ok a, c)
    | (.error e, c) => (.error e, c)
  | (.error e, c) => (.error e, (close c).2)

def word : List Char → Reader Unit
  | [] => pure ()
  | x :: xs => do
    match ← peek with
    | none => failHere .endOfValue
    | some c => if c = x then do eat; word xs else failAhead .expectedIdent

end Reader
end Storefront.Json
