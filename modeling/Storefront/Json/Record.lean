import Storefront.Json.Format

/-! Records: objects with fields of known names, or lists of the fields in their order. -/

namespace Storefront.Json

open Reader

structure Field (P : Type) where
  name : String
  isSet : P → Bool
  read : Nat → P → Reader P
  ofKept : Kept → P → Except Cause P

namespace Field

variable {P α : Type}

def of (name : String) (format : Format α) (get : P → Option α) (set : α → P → P) : Field P where
  name := name
  isSet p := (get p).isSome
  read depth p := return set (← format.read depth) p
  ofKept v p := return set (← format.ofKept v) p

end Field

structure Record (P α : Type) where
  name : String
  fields : List (Field P)
  blank : P
  finish : P → Except Cause α
  /-- A list of fields may end early. -/
  lenient : Bool
  members : α → List (String × List Char)

def required {α : Type} (name : String) (x : Option α) : Except Cause α :=
  match x with
  | some a => .ok a
  | none => .error (.missingField name)

def counted (n : Nat) (one many : String) : String :=
  n.repr ++ " " ++ (if n = 1 then one else many)

namespace Record

variable {P α : Type}

def tooShort (r : Record P α) (n : Nat) : Cause :=
  .invalidLength n
    (r.name ++ " with " ++ counted r.fields.length "element" "elements")

def readItems (r : Record P α) (depth : Nat) : List (Field P) → Nat → P → Reader P
  | [], _, p => return p
  | f :: fs, n, p => do
    if ← nextElement (n == 0) then r.readItems depth fs (n + 1) (← f.read depth p)
    else if r.lenient then return p
    else fail (r.tooShort n)

/-- Takes in a member. Members of unknown names are passed over. -/
def readMember (r : Record P α) (depth : Nat) (p : P) (key : String) : Reader P := do
  match r.fields.find? (·.name == key) with
  | some f =>
    if f.isSet p then fail (.duplicateField key)
    else do
      colon
      f.read depth p
  | none => do
    colon
    skipValue
    return p

def readBody (r : Record P α) (c : Char) (depth : Nat) : Reader α := do
  let p ← if c = '[' then r.readItems depth r.fields 0 r.blank
    else allMembers (r.readMember depth) r.blank
  ofExcept (r.finish p)

def read (r : Record P α) (depth : Nat) : Reader α := do
  let c ← peekValue
  if c = '[' then positioned (bracketed depth (r.readBody c) endList)
  else if c = '\x7b' then positioned (bracketed depth (r.readBody c) endObject)
  else wrongKind r.name c

def keptItems (r : Record P α) (items : List Kept) : List (Field P) → Nat → P → Except Cause P
  | [], n, p =>
    if items.length = n then .ok p
    else .error (.invalidLength items.length
      (counted n "element in sequence" "elements in sequence"))
  | f :: fs, n, p =>
    match items[n]? with
    | some v => do r.keptItems items fs (n + 1) (← f.ofKept v p)
    | none => if r.lenient then .ok p else .error (r.tooShort n)

def keptMember (r : Record P α) (p : P) (entry : String × Kept) : Except Cause P :=
  match r.fields.find? (·.name == entry.1) with
  | some f => if f.isSet p then .error (.duplicateField entry.1) else f.ofKept entry.2 p
  | none => .ok p

def ofKept (r : Record P α) (v : Kept) : Except Cause α :=
  match v with
  | .list items => do r.finish (← r.keptItems items r.fields 0 r.blank)
  | .object entries => do r.finish (← entries.foldlM r.keptMember r.blank)
  | v => .error (.invalidType v.found r.name)

def writeMember (m : String × List Char) : List Char :=
  writeString m.1 ++ ':' :: m.2

def writeMembers (ms : List (String × List Char)) : List Char :=
  '\x7b' :: Format.commas (ms.map writeMember) ++ ['\x7d']

def format (r : Record P α) : Format α where
  read := r.read
  ofKept := r.ofKept
  write a := writeMembers (r.members a)

end Record
end Storefront.Json
