import Storefront.Deflate.Inflater
import Storefront.Png.Filter
import Storefront.Png.Pass
import Storefront.Png.Preface

/-! Rows of a picture while the data come in. Each row is looked at once its data are settled. -/

namespace Storefront.Png

/-- The image data as far as they were read. The rows `ahead` are still to be looked at: groups of
so many rows with so many bytes each, the first of which begins at `place`. -/
structure Rows where
  stream : Deflate.Inflater
  ahead : List (Nat × Nat)
  place : Nat

namespace Rows

def start (h : Header) : Rows := ⟨.start, h.rowGroups, 0⟩

/-- All rows were looked at. What follows them in the stream does not matter. -/
def isComplete (r : Rows) : Bool :=
  r.ahead.isEmpty

/-- What is wrong with a row with the given filter. A palette that is missing is missed in the first
row. -/
def fault? (p : Preface) (filter : UInt8) : Option Error :=
  if (Filter.ofByte? filter).isNone then some (.filterMethod filter)
  else if p.lacksPalette then some .paletteMissing
  else none

/-- Looks at rows of `length` bytes, `count` of them at most, and gives how many are still ahead
and where they begin. -/
def checkGroup (p : Preface) (data : Array UInt8) (available length : Nat) :
    Nat → Nat → Except Error (Nat × Nat)
  | 0, place => .ok (0, place)
  | count + 1, place =>
    if available < place + length then .ok (count + 1, place)
    else match fault? p (data.getD place 0) with
      | some e => .error e
      | none => checkGroup p data available length count (place + length)

def checkGroups (p : Preface) (data : Array UInt8) (available : Nat) :
    List (Nat × Nat) → Nat → Except Error (List (Nat × Nat) × Nat)
  | [], place => .ok ([], place)
  | (count, length) :: groups, place =>
    match checkGroup p data available length count place with
    | .error e => .error e
    | .ok (0, place) => checkGroups p data available groups place
    | .ok (count, place) => .ok ((count, length) :: groups, place)

def check (p : Preface) (available : Nat) (r : Rows) : Except Error Rows :=
  (checkGroups p r.stream.out available r.ahead r.place).map fun c =>
    { r with ahead := c.1, place := c.2 }

/-- How far back a match may reach. -/
def window : Nat := 32768

def portion : Nat := 8192

def limit (h : Header) (r : Rows) : Nat :=
  min h.dataRoom (r.stream.given + portion)

/-- How much of the data is settled: all of them at the end or when there is no more room, else those
to which no match reaches back. -/
def settled (h : Header) (r : Rows) : Nat :=
  if r.stream.isDone || h.dataRoom ≤ r.stream.given then r.stream.given
  else r.stream.given - window

/-- Reads the rest of a piece. Each time a bit is read at least, so `fuel` of more than the bits that
are left does not run out. -/
def drain (p : Preface) : Nat → Rows → Except Error Rows
  | 0, r => .ok r
  | fuel + 1, r =>
    if r.isComplete || r.stream.isDone then .ok r
    else
      let limit := r.limit p.header
      match r with
      | ⟨stream, ahead, place⟩ =>
        match stream.read limit with
        | .error e => .error (.deflate e)
        | .ok stream =>
          let isDrained := stream.isDrained
          let r : Rows := ⟨stream, ahead, place⟩
          match r.check p (r.settled p.header) with
          | .error e => .error e
          | .ok r => if isDrained then .ok r else drain p fuel r

def push (p : Preface) (r : Rows) (piece : List UInt8) : Except Error Rows :=
  let r := { r with stream := r.stream.push piece }
  r.drain p (r.stream.intake.size + 2)

def checkAll (p : Preface) (r : Rows) : Except Error Rows :=
  r.check p r.stream.given

def finish (p : Preface) (r : Rows) : Except Error (Array UInt8) := do
  let r ←
    if r.isComplete || r.stream.isDone then .ok r
    else match r.stream.readEnd (r.limit p.header) with
      | .error e => .error (.deflate e)
      | .ok stream => checkAll p { r with stream := stream }
  if r.isComplete then return r.stream.out else throw .tooLittleData

def breakOff (p : Preface) (r : Rows) : Error :=
  match r.checkAll p with
  | .error e => e
  | .ok _ => .endOfFile

end Rows
end Storefront.Png
