import Storefront.Text.Class.CaseIgnorable
import Storefront.Text.Class.Cased
import Storefront.Text.LowerCaseTable

/-! Texts in lower case. A capital sigma at the end of a word becomes the final form of the small
letter, so the case of a text is not a property of its characters alone. -/

namespace Storefront.LowerCase

/-- One character in lower case. A dotted capital i keeps its dot as a mark of its own. -/
def char (c : Char) : List Char :=
  if c = 'İ' then ['i', '\u0307'] else [CaseRun.partner runs c]

/-- The first character that letter case does not look through has a case. -/
def meetsCased (s : List Char) : Bool :=
  match s.dropWhile CharClass.caseIgnorable.contains with
  | [] => false
  | c :: _ => CharClass.cased.contains c

/-- A word ends at a sigma between `before`, nearest character first, and `after`. -/
def endsWord (before after : List Char) : Bool :=
  meetsCased before && !meetsCased after

def chars (before : List Char) : List Char → List Char
  | [] => []
  | c :: rest =>
    (if c = 'Σ' then [if endsWord before rest then 'ς' else 'σ'] else char c) ++
      chars (c :: before) rest

end Storefront.LowerCase

namespace Storefront

def lowerCase (s : String) : String :=
  String.ofList (LowerCase.chars [] s.toList)

end Storefront
