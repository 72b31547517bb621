/-! The bits of a stream that comes in pieces, the low bit of each byte first. -/

namespace Storefront.Deflate

/-- The bits that were loaded and not yet read, `count` of them with zeros above, and the bytes of
the piece that follow them. -/
structure Intake where
  bits : Nat
  count : Nat
  rest : List UInt8

namespace Intake

def empty : Intake := ⟨0, 0, []⟩

def capacity : Nat := 63

def load (bits count : Nat) : List UInt8 → Intake
  | [] => ⟨bits, count, []⟩
  | c :: rest =>
    if count + 8 ≤ capacity then load (bits + c.toNat <<< count) (count + 8) rest
    else ⟨bits, count, c :: rest⟩

def fill (b : Intake) : Intake :=
  load b.bits b.count b.rest

def size (b : Intake) : Nat :=
  b.count + 8 * b.rest.length

def peek (b : Intake) (skip n : Nat) : Nat :=
  (b.bits >>> skip) % (1 <<< n)

def drop (b : Intake) (n : Nat) : Intake :=
  { b with bits := b.bits >>> n, count := b.count - n }

def slack (b : Intake) (n : Nat) : Nat :=
  (b.count - n) % 8

/-- A whole byte when no other is read in part. -/
def next? (b : Intake) : Option (UInt8 × Intake) :=
  if 8 ≤ b.count then some ((b.peek 0 8).toUInt8, b.drop 8)
  else match b.rest with
    | [] => none
    | c :: rest => some (c, { b with rest := rest })

theorem size_load (bits count : Nat) (bytes : List UInt8) :
    (load bits count bytes).size = count + 8 * bytes.length := by
  induction bytes generalizing bits count with
  | nil => rfl
  | cons c rest ih =>
    unfold load
    split
    · rw [ih, List.length_cons]; omega
    · rfl

theorem size_fill (b : Intake) : b.fill.size = b.size :=
  size_load b.bits b.count b.rest

end Intake
end Storefront.Deflate
