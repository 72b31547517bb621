import Storefront.Geometry.Placement

/-! The largest size of given proportions inside a target, in 64-bit arithmetic. -/

namespace Storefront

inductive ArithmeticError where
  | divisionByZero
deriving DecidableEq

def ArithmeticError.message : ArithmeticError → String
  | .divisionByZero => "attempt to divide by zero"

def quotient (a b : UInt64) : Except ArithmeticError UInt64 :=
  if b = 0 then .error .divisionByZero else .ok (a / b)

namespace Dimensions

def wider (source target : Dimensions) : Bool :=
  decide (target.width.toUInt64 * source.height.toUInt64 <
    source.width.toUInt64 * target.height.toUInt64)

def side (n : UInt64) : UInt32 :=
  (if n = 0 then 1 else n).toUInt32

/-- The largest size with the proportions of `source` inside `target`. A wider source takes the
width of the target, any other its height; the other side rounds down. -/
def fitWithin (source target : Dimensions) : Except ArithmeticError Dimensions :=
  let sw := source.width.toUInt64
  let sh := source.height.toUInt64
  let tw := target.width.toUInt64
  let th := target.height.toUInt64
  if source.wider target then do
    let height ← quotient (tw * sh) sw
    return ⟨side tw, side height⟩
  else do
    let width ← quotient (th * sw) sh
    return ⟨side width, side th⟩

end Dimensions
end Storefront
