import Storefront.Deflate.Code
import Storefront.Deflate.Error

/-! The symbols of compressed blocks, and the codes that are made for them. -/

namespace Storefront.Deflate

/-- The symbol at the end of a block. Those below it are bytes, those above it lengths. -/
def endOfBlock : Nat := 256

/-- The shortest match of each length symbol, and how many bits add to it. -/
def lengthBases : Array (Nat × Nat) :=
  #[(3, 0), (4, 0), (5, 0), (6, 0), (7, 0), (8, 0), (9, 0), (10, 0), (11, 1), (13, 1), (15, 1),
    (17, 1), (19, 2), (23, 2), (27, 2), (31, 2), (35, 3), (43, 3), (51, 3), (59, 3), (67, 4),
    (83, 4), (99, 4), (115, 4), (131, 5), (163, 5), (195, 5), (227, 5), (258, 0)]

def distanceBases : Array (Nat × Nat) :=
  #[(1, 0), (2, 0), (3, 0), (4, 0), (5, 1), (7, 1), (9, 2), (13, 2), (17, 3), (25, 3), (33, 4),
    (49, 4), (65, 5), (97, 5), (129, 6), (193, 6), (257, 7), (385, 7), (513, 8), (769, 8),
    (1025, 9), (1537, 9), (2049, 10), (3073, 10), (4097, 11), (6145, 11), (8193, 12), (12289, 12),
    (16385, 13), (24577, 13)]

/-- The order in which the lengths of the length code are written. -/
def lengthOrder : List Nat :=
  [16, 17, 18, 0, 8, 7, 9, 6, 10, 5, 11, 4, 12, 3, 13, 2, 14, 1, 15]

/-- The two codes of a block. Literals of a code that the block brings may be read in pairs. -/
structure BlockCodes where
  literals : Code
  distances : Code
  paired : Bool

namespace BlockCodes

def fixed : BlockCodes where
  literals := .ofLengths (List.replicate 144 8 ++ List.replicate 112 9 ++ List.replicate 24 7 ++
    List.replicate 8 8)
  distances := .ofLengths (List.replicate 32 5)
  paired := false

/-- The codes with the given lengths. The end of the block needs a code; the distances may do
without. -/
def ofLengths (literals distances : List Nat) : Except DeflateError BlockCodes :=
  let literalCode := Code.ofLengths literals
  let distanceCode := Code.ofLengths distances
  if literals.getD endOfBlock 0 = 0 then .error .badLiteralTree
  else if !literalCode.isComplete then .error .badLengthTree
  else if !distanceCode.isComplete && !distanceCode.isSparse then .error .badDistanceTree
  else .ok ⟨literalCode, distanceCode, true⟩

end BlockCodes

def smallCode (small : List Nat) : Code :=
  .ofLengths ((List.range 19).map fun s => ((lengthOrder.zip small).lookup s).getD 0)

/-- What a symbol of the length code stands for: the value to repeat, the bits that add to the
number of times, and the fewest times. -/
def repetition (symbol : Nat) (last : Option Nat) : Option Nat × Nat × Nat :=
  match symbol with
  | 16 => (last, 2, 3)
  | 17 => (some 0, 3, 3)
  | 18 => (some 0, 7, 11)
  | n => (some n, 0, 1)

end Storefront.Deflate
