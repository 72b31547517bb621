/-! Characters and their partners in the other letter case, in runs of equal distance. -/

namespace Storefront

/-- The characters `first`, `first + step`, … up to `last`; the partner of `first` is `image`,
and the partners stand at the same distances as the characters. -/
structure CaseRun where
  first : Nat
  last : Nat
  step : Nat
  image : Nat

namespace CaseRun

def image? (r : CaseRun) (c : Char) : Option Char :=
  if r.first ≤ c.toNat ∧ c.toNat ≤ r.last ∧ (c.toNat - r.first) % r.step = 0 then
    some (Char.ofNat (r.image + (c.toNat - r.first)))
  else none

def partner (runs : List CaseRun) (c : Char) : Char :=
  (runs.findSome? (·.image? c)).getD c

end CaseRun
end Storefront
