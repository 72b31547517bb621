/-! Texts of numbers in decimal digits. -/

namespace Storefront.Decimal

def isPlain (s : List Char) : Bool :=
  let whole := s.takeWhile Char.isDigit
  let rest := s.drop whole.length
  let (places, rest) :=
    match rest with
    | '.' :: rest => (rest.takeWhile Char.isDigit, rest.dropWhile Char.isDigit)
    | rest => ([], rest)
  (whole ≠ [] || places ≠ []) &&
    match rest with
    | [] => true
    | e :: rest =>
      let digits := if rest.head? = some '+' ∨ rest.head? = some '-' then rest.drop 1 else rest
      e.toLower = 'e' && digits ≠ [] && digits.all Char.isDigit

def isUnsigned (s : List Char) : Bool :=
  isPlain s || ["inf", "infinity", "nan"].contains (String.ofList (s.map Char.toLower))

def isNumber (s : List Char) : Bool :=
  match s with
  | '+' :: s | '-' :: s => isUnsigned s
  | s => isUnsigned s

inductive WholeFault where
  | empty
  | digit
  | tooLarge
deriving DecidableEq

def WholeFault.text : WholeFault → String
  | empty => "cannot parse integer from empty string"
  | digit => "invalid digit found in string"
  | tooLarge => "number too large to fit in target type"

def wholeFrom (bound : Nat) : Nat → List Char → Except WholeFault Nat
  | n, [] => .ok n
  | n, c :: s =>
    if !c.isDigit then .error .digit
    else
      let n := 10 * n + (c.toNat - 48)
      if bound ≤ n then .error .tooLarge else wholeFrom bound n s

def whole (bound : Nat) (s : List Char) : Except WholeFault Nat :=
  match s with
  | [] => .error .empty
  | ['+'] => .error .digit
  | '+' :: s => wholeFrom bound 0 s
  | s => wholeFrom bound 0 s

end Storefront.Decimal
