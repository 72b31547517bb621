/-! Writing streams in which every byte stands for itself. -/

namespace Storefront

/-- Cuts a list into parts of `n` elements, the last of them perhaps shorter; `n` counts as one
at least. -/
def cut {α : Type} (n : Nat) (l : List α) : List (List α) :=
  match _h : l.drop (max n 1) with
  | [] => [l]
  | a :: rest => l.take (max n 1) :: cut n (a :: rest)
termination_by l.length
decreasing_by
  have := congrArg List.length _h
  simp only [List.length_drop, List.length_cons] at this ⊢
  omega

theorem flatten_cut {α : Type} (n : Nat) (l : List α) : (cut n l).flatten = l := by
  fun_induction cut n l with
  | case1 => simp
  | case2 l a rest h ih => rw [List.flatten_cons, ih, ← h, List.take_append_drop]

theorem length_le_of_mem_cut {α : Type} {n : Nat} (hn : 0 < n) {l p : List α} (h : p ∈ cut n l) :
    p.length ≤ n := by
  fun_induction cut n l with
  | case1 l hl =>
    have := List.drop_eq_nil_iff.1 hl
    simp only [List.mem_singleton] at h
    subst h; omega
  | case2 l a rest hl ih =>
    rcases List.mem_cons.1 h with rfl | h
    · simp only [List.length_take]; omega
    · exact ih h

namespace Deflate

def adlerStep (s : UInt32 × UInt32) (b : UInt8) : UInt32 × UInt32 :=
  let a := (s.1 + b.toUInt32) % 65521
  (a, (s.2 + a) % 65521)

def adler (pieces : List (List UInt8)) : UInt32 :=
  let s := pieces.foldl (fun s piece => piece.foldl adlerStep s) (1, 0)
  s.2 * 65536 + s.1

def bigEndian (n : UInt32) : List UInt8 :=
  [(n >>> 24).toUInt8, (n >>> 16).toUInt8, (n >>> 8).toUInt8, n.toUInt8]

def littleEndian (n : UInt16) : List UInt8 :=
  [n.toUInt8, (n >>> 8).toUInt8]

def maxStored : Nat := 65535

def storedBlock (last : Bool) (bytes : List UInt8) : List UInt8 :=
  let n := bytes.length.toUInt16
  (if last then 1 else 0) :: (littleEndian n ++ littleEndian (65535 - n) ++ bytes)

def storedBlocks : List (List UInt8) → List (List UInt8)
  | [] => [storedBlock true []]
  | [p] => [storedBlock true p]
  | p :: ps => storedBlock false p :: storedBlocks ps

def store (pieces : List (List UInt8)) : List (List UInt8) :=
  [0x78, 0x01] :: storedBlocks (pieces.flatMap (cut maxStored)) ++ [bigEndian (adler pieces)]

end Deflate
end Storefront
