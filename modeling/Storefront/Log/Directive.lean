import Storefront.Log.Pattern
import Storefront.Log.Record
import Storefront.Text.Blank
import Storefront.Text.Class.Alphanumeric
import Storefront.Text.Slice

/-! Directives of log filters, and how they are read. -/

namespace Storefront.Log

structure FieldTest where
  name : String
  value : Option String
deriving DecidableEq

/-- Lets through what comes from targets that begin with `target`, or from all, up to a level;
without a level nothing. A directive with a span or with a value is for what happens inside of
spans, of which the tools have none. -/
structure Directive where
  target : Option String
  span : Option String
  field : Option FieldTest
  level : Option Level
deriving DecidableEq

inductive DirectiveFault where
  | invalid
  /-- A part of the text would begin or end inside of a character. -/
  | broken
deriving DecidableEq

namespace Directive

/-- The level with a number of any width, which may have a plus sign. -/
def numbered? (s : List Char) : Option (Option Level) :=
  let digits := if s.head? = some '+' then s.drop 1 else s
  if digits ≠ [] ∧ digits.all Char.isDigit then
    match digits.dropWhile (· = '0') with
    | [] => some none
    | ['1'] => some (some .error)
    | ['2'] => some (some .warn)
    | ['3'] => some (some .info)
    | ['4'] => some (some .debug)
    | ['5'] => some (some .trace)
    | _ => none
  else none

def named? (s : List Char) : Option (Option Level) :=
  match String.ofList (s.map Char.toLower) with
  | "off" => some none
  | "error" | "" => some (some .error)
  | "warn" => some (some .warn)
  | "info" => some (some .info)
  | "debug" => some (some .debug)
  | "trace" => some (some .trace)
  | _ => none

def level? (s : List Char) : Option (Option Level) :=
  (numbered? s).orElse fun _ => named? s

structure Cursor where
  rest : List Char
  place : Nat

/-- Reads a directive with the blanks left out, and cuts its parts at the same places out of the
text with the blanks. -/
abbrev Reader := ReaderT (List Char) (StateT Cursor (Except DirectiveFault))

namespace Reader

def fail {α : Type} (e : DirectiveFault) : Reader α := fun _ _ => .error e

def part (stops : List Char) : Reader (List Char × Char) := fun text c =>
  let read := c.rest.takeWhile fun x => !stops.contains x
  match c.rest.drop read.length with
  | [] => .error .invalid
  | stop :: rest =>
    let place := c.place + Slice.size read
    match Slice.between? c.place place text with
    | none => .error .broken
    | some s => .ok ((s, stop), ⟨rest, place + stop.utf8Size⟩)

def remainder : Reader (List Char) := fun text c =>
  match Slice.drop? c.place text with
  | none => .error .broken
  | some s => .ok (s, c)

def next? : Reader (Option Char) := fun _ c =>
  match c.rest with
  | [] => .ok (none, c)
  | x :: rest => .ok (some x, ⟨rest, c.place + x.utf8Size⟩)

/-- What follows an equals sign; nothing stands for all levels. -/
def level : Reader (Option Level) := do
  let s ← remainder
  if s = [] then return some .trace
  match level? s with
  | some l => return l
  | none => fail .invalid

def optionalLevel : Reader (Option Level) := do
  match ← next? with
  | none => return some .trace
  | some '=' => level
  | some _ => fail .invalid

def fieldTest (s : List Char) : FieldTest :=
  let name := s.takeWhile (· ≠ '=')
  { name := String.ofList name
    value := match s.drop name.length with
      | [] => none
      | _ :: value => some (String.ofList (value.takeWhile (· ≠ '='))) }

def spanOf (target : Option String) : Reader Directive := do
  let (name, stop) ← part [']', '\x7b']
  if stop = ']' then
    return ⟨target, some (String.ofList name), none, ← optionalLevel⟩
  let span := if name = [] then none else some (String.ofList name)
  let (text, _) ← part ['\x7d']
  let field := fieldTest text
  if text = [] || !field.value.all fun v => Pattern.isValid v.toList then fail .invalid
  match ← next? with
  | some ']' => return ⟨target, span, some field, ← optionalLevel⟩
  | _ => fail .invalid

def bare : Reader Directive := do
  let s ← remainder
  match level? s with
  | some l => return ⟨none, none, none, l⟩
  | none => return ⟨some (String.ofList s), none, none, some .trace⟩

def withTarget : Reader Directive := do
  let (target, stop) ← part ['=', '[']
  let target := some (String.ofList target)
  if stop = '=' then return ⟨target, none, none, ← level⟩
  spanOf target

end Reader

def opensTarget (c : Char) : Bool :=
  c = '-' || c = ':' || c = '_' || CharClass.alphanumeric.contains c

def parse (text : List Char) : Except DirectiveFault Directive :=
  let s := trim text
  let run (r : Reader Directive) (c : Cursor) := (r text c).map Prod.fst
  match s with
  | [] => .error .invalid
  | '[' :: rest => run (Reader.spanOf none) ⟨rest, 1⟩
  | c :: _ =>
    if !opensTarget c then .error .invalid
    else if s.contains '=' || s.contains '[' then run Reader.withTarget ⟨s, 0⟩
    else run Reader.bare ⟨s, 0⟩

end Directive
end Storefront.Log
