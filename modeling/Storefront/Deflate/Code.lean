/-! Canonical prefix codes, given by the length of the code of each symbol. -/

namespace Storefront.Deflate

/-- How many codes there are of each length from 1 up to the longest, and the symbols in the order
of their codes. -/
structure Code where
  counts : List Nat
  symbols : Array Nat

namespace Code

def maxLength : Nat := 15

def lengths : List Nat := List.range' 1 maxLength

def symbolsOfLength (ls : List Nat) (n : Nat) : List Nat :=
  ls.zipIdx.filterMap fun p => if p.1 = n then some p.2 else none

def dropZeros (counts : List Nat) : List Nat :=
  (counts.reverse.dropWhile (· = 0)).reverse

def ofLengths (ls : List Nat) : Code where
  counts := dropZeros (lengths.map fun n => ls.count n)
  symbols := (lengths.flatMap (symbolsOfLength ls)).toArray

/-- The places left in a tree as deep as the longest code once all codes are in it, `none` when
they do not fit. -/
def spare? (c : Code) : Option Nat :=
  c.counts.foldl (fun room n => room.bind fun r => if n ≤ 2 * r then some (2 * r - n) else none)
    (some 1)

def isComplete (c : Code) : Bool :=
  c.spare? == some 0

def isSparse (c : Code) : Bool :=
  c.counts == [] || c.counts == [1]

structure Hit where
  symbol : Nat
  length : Nat

/-- Looks for a code of more than `length` bits. Of the codes with as many bits as were looked at,
`first` is the first, and `index` symbols have shorter ones. -/
def findFrom? (c : Code) : List Nat → Nat → Nat → Nat → Nat → Nat → Option Hit
  | [], _, _, _, _, _ => none
  | count :: counts, length, code, first, index, bits =>
    let code := code + bits % 2
    if code < first + count then
      (c.symbols[index + (code - first)]?).map (⟨·, length + 1⟩)
    else
      c.findFrom? counts (length + 1) (2 * code) (2 * (first + count)) (index + count) (bits / 2)

def find? (c : Code) (bits : Nat) : Option Hit :=
  c.findFrom? c.counts 0 0 0 0 bits

end Code
end Storefront.Deflate
