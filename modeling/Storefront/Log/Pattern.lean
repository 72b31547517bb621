import Storefront.Decimal.Literal
import Storefront.Log.Pattern.Bracket
import Storefront.Log.Pattern.Group

/-! Which texts are values that a field of a span can be compared with: patterns that need no
tables of characters, and numbers. -/

namespace Storefront.Log.Pattern

structure Part where
  depth : Nat
  isRepeatable : Bool

/-- A group that is open: its modes, the parts of its last branch, the latest first, and the depths
of the branches before. -/
structure Frame where
  modes : Modes
  parts : List Part
  branches : List Nat

namespace Frame

def start (m : Modes) : Frame := ⟨m, [], []⟩

def push (f : Frame) (depth : Nat) : Frame :=
  { f with parts := ⟨depth, true⟩ :: f.parts }

/-- Several depths side by side count as a level of their own. -/
def together (depths : List Nat) : Nat :=
  let most := depths.foldl max 0
  if 1 < depths.length then most + 1 else most

def branch (f : Frame) : Nat :=
  together (f.parts.map Part.depth)

def total (f : Frame) : Nat :=
  together (f.branch :: f.branches)

def split (f : Frame) : Frame :=
  ⟨f.modes, [], f.branch :: f.branches⟩

def repeat? (f : Frame) : Option Frame :=
  match f.parts with
  | ⟨depth, true⟩ :: parts => some { f with parts := ⟨depth + 1, true⟩ :: parts }
  | _ => none

/-- The frame with modes for what follows. They cannot be repeated. -/
def setModes (f : Frame) (m : Modes) : Frame :=
  { f with modes := m, parts := ⟨0, false⟩ :: f.parts }

end Frame

def maxDepth : Nat := 250

/-- The rest of a pattern within the open groups. The names of groups are all different. A question
mark directly after a repetition belongs to it. Every step takes a character. -/
def accepts : Nat → List (List Char) → Frame → List Frame → List Char → Bool
  | 0, _, _, _, _ => false
  | fuel + 1, names, f, outer, s =>
    let m := f.modes
    match m.skip s with
    | [] => outer.isEmpty && f.total ≤ maxDepth
    | '(' :: s =>
      match parenthesis? m s with
      | none => false
      | some (.modes m, s) => accepts fuel names (f.setModes m) outer s
      | some (.group none m, s) => accepts fuel names (.start m) (f :: outer) s
      | some (.group (some name) m, s) =>
        !names.contains name && accepts fuel (name :: names) (.start m) (f :: outer) s
    | ')' :: s =>
      match outer with
      | [] => false
      | above :: outer => accepts fuel names (above.push (f.total + 1)) outer s
    | '|' :: s => accepts fuel names f.split outer s
    | '[' :: s => (set? m s).any fun r => accepts fuel names (f.push r.1) outer r.2
    | '*' :: s | '+' :: s | '?' :: s =>
      let s := if s.head? = some '?' then s.drop 1 else s
      f.repeat?.any fun f => accepts fuel names f outer s
    | '\\' :: s =>
      (escape? m s).any fun r => r.1.isKnown m && accepts fuel names (f.push 0) outer r.2
    | '.' :: s => m.unicode && accepts fuel names (f.push 0) outer s
    | '^' :: s | '$' :: s => accepts fuel names (f.push 0) outer s
    | '\x7b' :: _ => false
    | c :: s => (Atom.literal c false).isKnown m && accepts fuel names (f.push 0) outer s

/-- A number with a plus sign, which is no pattern but can be compared with. -/
def isPositive (s : List Char) : Bool :=
  match s with
  | '+' :: s => Decimal.isUnsigned s
  | _ => false

def isValid (s : List Char) : Bool :=
  isPositive s || accepts (s.length + 1) [] (.start .initial) [] s

end Storefront.Log.Pattern
