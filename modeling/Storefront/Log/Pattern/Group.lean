import Storefront.Log.Pattern.Modes
import Storefront.Text.Class.Alphanumeric
import Storefront.Text.Class.Numeral

/-! What begins with a parenthesis. -/

namespace Storefront.Log.Pattern

inductive Opening where
  | group (name : Option (List Char)) (modes : Modes)
  /-- Modes for the rest of the group around them. -/
  | modes (m : Modes)

def opensName (c : Char) : Bool :=
  c = '_' || CharClass.alphanumeric.contains c && !CharClass.numeral.contains c

def continuesName (c : Char) : Bool :=
  ['_', '.', '[', ']'].contains c || CharClass.alphanumeric.contains c

def isName : List Char → Bool
  | [] => false
  | c :: s => opensName c && s.all continuesName

def namedGroup? (m : Modes) (s : List Char) : Option (Opening × List Char) :=
  let name := s.takeWhile (· ≠ '>')
  match s.drop name.length with
  | [] => none
  | _ :: rest => if isName name then some (.group (some name) m, rest) else none

def modes? (m : Modes) (s : List Char) : Option (Opening × List Char) :=
  let text := s.takeWhile fun c => c ≠ ':' && c ≠ ')'
  if Modes.isText text then
    match s.drop text.length with
    | ':' :: rest => some (.group none (m.update text), rest)
    | ')' :: rest => if text = [] then none else some (.modes (m.update text), rest)
    | _ => none
  else none

def looksAround (s : List Char) : Bool :=
  [['?', '='], ['?', '!'], ['?', '<', '='], ['?', '<', '!']].any (·.isPrefixOf s)

def parenthesis? (m : Modes) (s : List Char) : Option (Opening × List Char) :=
  let s := m.skip s
  if looksAround s then none
  else match s with
    | '?' :: 'P' :: '<' :: s | '?' :: '<' :: s => namedGroup? m s
    | '?' :: s => modes? m s
    | s => some (.group none m, s)

end Storefront.Log.Pattern
