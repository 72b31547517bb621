import Storefront.Text.Blank

/-! The modes in which the text of a pattern is read. -/

namespace Storefront.Log.Pattern

structure Modes where
  ignoresCase : Bool
  unicode : Bool
  verbose : Bool
deriving DecidableEq

namespace Modes

def initial : Modes := ⟨false, true, false⟩

/-- The letters of modes, those included in which the text is not read differently. -/
def letters : List Char := ['i', 'm', 's', 'U', 'u', 'R', 'x']

/-- What a text of modes says of the one with the given letter. It is off after a hyphen. -/
def state? (letter : Char) (text : List Char) : Option Bool :=
  if text.contains letter then some !((text.takeWhile (· ≠ letter)).contains '-') else none

def update (m : Modes) (text : List Char) : Modes where
  ignoresCase := (state? 'i' text).getD m.ignoresCase
  unicode := (state? 'u' text).getD m.unicode
  verbose := (state? 'x' text).getD m.verbose

/-- Every letter and the hyphen stand at most once, and the hyphen before a letter. -/
def isText (text : List Char) : Bool :=
  text.all (fun c => c = '-' || letters.contains c) && text.eraseDups.length = text.length &&
    text.getLast? ≠ some '-'

end Modes

/-- The text after blanks and comments; `inComment` says that a comment is not at its end. A comment
begins with a hash sign and goes up to the end of the line. -/
def afterBlanks : Bool → List Char → List Char
  | _, [] => []
  | true, c :: s => afterBlanks (c ≠ '\n') s
  | false, c :: s =>
    if isBlank c then afterBlanks false s
    else if c = '#' then afterBlanks true s
    else c :: s

def Modes.skip (m : Modes) (s : List Char) : List Char :=
  if m.verbose then afterBlanks false s else s

/-- The next character that says something, as it is seen from the one before it: after the sign of
a comment the text of the comment is seen. -/
def Modes.peek? (m : Modes) (s : List Char) : Option Char :=
  if m.verbose then
    match s.dropWhile isBlank with
    | '#' :: s => (s.dropWhile isBlank).head?
    | s => s.head?
  else s.head?

end Storefront.Log.Pattern
