import Storefront.Log.Pattern.Modes

/-! Escapes, which a backslash begins, and what they stand for. -/

namespace Storefront.Log.Pattern

inductive Atom where
  /-- A character; `isByte` says that it was given as the number of a byte. -/
  | literal (c : Char) (isByte : Bool)
  /-- Digits, blanks or word characters, or all other ones. -/
  | kind (isNegated : Bool)
  | edge
  | wordEdge

/-- What an atom stands for is known. There are no tables for the kinds of characters of Unicode and
for their letter case, and bytes beyond ASCII are no text. -/
def Atom.isKnown (m : Modes) : Atom → Bool
  | literal c isByte => if m.unicode then !m.ignoresCase else !isByte || c.toNat < 128
  | kind isNegated => !m.unicode && !isNegated
  | edge => true
  | wordEdge => !m.unicode

def digit? (c : Char) : Option Nat :=
  if c.isDigit then some (c.toNat - 48)
  else if 'a' ≤ c ∧ c ≤ 'f' then some (c.toNat - 87)
  else if 'A' ≤ c ∧ c ≤ 'F' then some (c.toNat - 55)
  else none

def hex? (m : Modes) : Nat → Nat → List Char → Option (Nat × List Char)
  | 0, value, s => some (value, s)
  | n + 1, value, s =>
    match m.skip s with
    | [] => none
    | c :: s => (digit? c).bind fun d => hex? m n (16 * value + d) s

def numbered? (m : Modes) (n : Nat) (isByte : Bool) (s : List Char) : Option (Atom × List Char) :=
  (hex? m n 0 s).bind fun r =>
    if r.1.isValidChar then some (.literal (Char.ofNat r.1) isByte, r.2) else none

/-- The atom of an escape whose backslash was read, and the text after it. Signs of ASCII stand for
themselves, angle brackets apart. -/
def escape? (m : Modes) : List Char → Option (Atom × List Char)
  | [] => none
  | c :: s =>
    let plain (c : Char) : Option (Atom × List Char) := some (.literal c false, s)
    match c with
    | 'x' => numbered? m 2 true s
    | 'u' => numbered? m 4 false s
    | 'U' => numbered? m 8 false s
    | 'd' | 's' | 'w' => some (.kind false, s)
    | 'D' | 'S' | 'W' => some (.kind true, s)
    | 'a' => plain '\x07'
    | 'f' => plain '\x0c'
    | 't' => plain '\t'
    | 'n' => plain '\n'
    | 'r' => plain '\r'
    | 'v' => plain '\x0b'
    | 'A' | 'z' => some (.edge, s)
    | 'b' | 'B' | '<' | '>' => some (.wordEdge, s)
    | c => if c.toNat < 128 && !c.isAlphanum then plain c else none

end Storefront.Log.Pattern
