import Storefront.Log.Pattern.Escape

/-! Sets of characters in brackets. -/

namespace Storefront.Log.Pattern

/-- A set whose bracket is open: how many items were read since the last operator, the greatest
depth of them, and the depth of what stands before that operator. -/
structure Level where
  count : Nat
  depth : Nat
  before : Option Nat

namespace Level

def empty : Level := ⟨0, 0, none⟩

def push (l : Level) (depth : Nat) : Level :=
  { l with count := l.count + 1, depth := max l.depth depth }

/-- How deep the set is: several items count as a level, and so does each operator. -/
def total (l : Level) : Nat :=
  let items := if 1 < l.count then l.depth + 1 else l.depth
  match l.before with
  | none => items
  | some d => max d items + 1

def combine (l : Level) : Level := { empty with before := some l.total }

end Level

def asciiNames : List String :=
  ["alnum", "alpha", "ascii", "blank", "cntrl", "digit", "graph", "lower", "print", "punct",
    "space", "upper", "word", "xdigit"]

def named? (s : List Char) : Option (Bool × List Char) :=
  match s with
  | ':' :: s =>
    let (isNegated, s) := if s.head? = some '^' then (true, s.drop 1) else (false, s)
    let name := s.takeWhile (· ≠ ':')
    match s.drop name.length with
    | ':' :: ']' :: rest =>
      if asciiNames.contains (String.ofList name) then some (isNegated, rest) else none
    | _ => none
  | _ => none

/-- Characters, ranges and named sets are known in a set, unless letter case is ignored or bytes
beyond ASCII would be meant. -/
def isKnownSet (m : Modes) (isNegated : Bool) : Bool :=
  if m.unicode then !m.ignoresCase else !isNegated

def Atom.isItem (m : Modes) : Atom → Bool
  | literal c _ => isKnownSet m (128 ≤ c.toNat)
  | kind isNegated => (kind isNegated).isKnown m
  | edge | wordEdge => false

def leadingHyphens (m : Modes) : Nat → List Char → Nat × List Char
  | 0, s => (0, s)
  | fuel + 1, s =>
    match m.skip s with
    | '-' :: s => ((leadingHyphens m fuel s).1 + 1, (leadingHyphens m fuel s).2)
    | s => (0, s)

/-- The beginning of a set whose bracket was read. Hyphens stand for themselves there, and without
them so does a closing bracket. -/
def opening? (m : Modes) (s : List Char) : Option (Level × List Char) :=
  let s := m.skip s
  let (isNegated, s) := if s.head? = some '^' then (true, s.drop 1) else (false, s)
  let (hyphens, s) := leadingHyphens m s.length s
  let (count, s) := if hyphens = 0 ∧ s.head? = some ']' then (1, s.drop 1) else (hyphens, s)
  if isNegated && !m.unicode || 0 < count && !isKnownSet m false then none
  else some (⟨count, 0, none⟩, s)

def item? (m : Modes) : List Char → Option (Atom × List Char)
  | [] => none
  | '\\' :: s => escape? m s
  | c :: s => some (.literal c false, s)

/-- The text after an item or a range. A hyphen before another one or before the end of the set makes
no range. -/
def range? (m : Modes) (s : List Char) : Option (List Char) := do
  let (first, s) ← item? m s
  let s := m.skip s
  let rest := s.drop 1
  if s.head? ≠ some '-' || m.peek? rest = some ']' || m.peek? rest = some '-' then
    if first.isItem m then some s else none
  else
    let (last, s) ← item? m (m.skip rest)
    match first, last with
    | .literal a _, .literal b _ =>
      if a ≤ b && first.isItem m && last.isItem m then some s else none
    | _, _ => none

/-- The depth of a set and the text after it, from within the open levels. Every step takes a
character. -/
def bracket? (m : Modes) : Nat → Level → List Level → List Char → Option (Nat × List Char)
  | 0, _, _, _ => none
  | fuel + 1, level, outer, s =>
    match m.skip s with
    | [] => none
    | '[' :: s =>
      match named? s with
      | some (isNegated, s) =>
        if isKnownSet m isNegated then bracket? m fuel (level.push 0) outer s else none
      | none => (opening? m s).bind fun r => bracket? m fuel r.1 (level :: outer) r.2
    | ']' :: s =>
      match outer with
      | [] => some (level.total + 1, s)
      | above :: outer => bracket? m fuel (above.push (level.total + 1)) outer s
    | '&' :: '&' :: s | '-' :: '-' :: s | '~' :: '~' :: s => bracket? m fuel level.combine outer s
    | s => (range? m s).bind (bracket? m fuel (level.push 0) outer)

def set? (m : Modes) (s : List Char) : Option (Nat × List Char) :=
  (opening? m s).bind fun r => bracket? m (s.length + 1) r.1 [] r.2

end Storefront.Log.Pattern
