import Storefront.Text.Class.GraphemeExtend
import Storefront.Text.Class.Unprintable

/-! A text between double quotes, with nothing in it that a reader could not see. -/

namespace Storefront.Quoted

def codePoint (c : Char) : List Char :=
  ['\\', 'u', '\x7b'] ++ (Nat.toDigits 16 c.toNat) ++ ['\x7d']

/-- One character of a quoted text. A character that extends the one before it is spelled out,
since it would be drawn over the quote. -/
def escape (c : Char) : List Char :=
  match c with
  | '\x00' => ['\\', '0']
  | '\t' => ['\\', 't']
  | '\r' => ['\\', 'r']
  | '\n' => ['\\', 'n']
  | '"' => ['\\', '"']
  | '\\' => ['\\', '\\']
  | c =>
    if CharClass.graphemeExtend.contains c || CharClass.unprintable.contains c then codePoint c
    else [c]

def quote (s : String) : String :=
  String.ofList ('"' :: s.toList.flatMap escape ++ ['"'])

end Storefront.Quoted
