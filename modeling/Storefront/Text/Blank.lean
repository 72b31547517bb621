import Storefront.Text.CharClass

/-! Blank characters, and texts without the blanks at their ends. -/

namespace Storefront

def isBlank (c : Char) : Bool :=
  CharClass.blank.contains c

def trimStart (s : List Char) : List Char :=
  s.dropWhile isBlank

def trimEnd (s : List Char) : List Char :=
  (s.reverse.dropWhile isBlank).reverse

def trim (s : List Char) : List Char :=
  trimEnd (trimStart s)

theorem trimStart_cons {c : Char} (hc : isBlank c = false) (s : List Char) :
    trimStart (c :: s) = c :: s :=
  List.dropWhile_cons_of_neg (by simp [hc])

theorem trimEnd_concat {c : Char} (hc : isBlank c = false) (s : List Char) :
    trimEnd (s ++ [c]) = s ++ [c] := by
  rw [trimEnd, List.reverse_concat, List.dropWhile_cons_of_neg (by simp [hc]), List.reverse_cons,
    List.reverse_reverse]

end Storefront
