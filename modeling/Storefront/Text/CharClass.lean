/-! Classes of characters, given by the intervals of their code points. -/

namespace Storefront

abbrev CharClass := List (Nat × Nat)

namespace CharClass

def contains (k : CharClass) (c : Char) : Bool :=
  k.any fun i => i.1 ≤ c.toNat && c.toNat ≤ i.2

theorem contains_iff {k : CharClass} {c : Char} :
    k.contains c = true ↔ ∃ i ∈ k, i.1 ≤ c.toNat ∧ c.toNat ≤ i.2 := by
  simp [contains]

/-- The Unicode property White_Space. -/
def blank : CharClass :=
  [(0x9, 0xD), (0x20, 0x20), (0x85, 0x85), (0xA0, 0xA0), (0x1680, 0x1680), (0x2000, 0x200A),
   (0x2028, 0x2029), (0x202F, 0x202F), (0x205F, 0x205F), (0x3000, 0x3000)]

end CharClass
end Storefront
