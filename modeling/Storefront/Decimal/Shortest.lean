/-! The fewest decimal digits that name a binary floating-point number. -/

namespace Storefront.Decimal

structure Scientific where
  digits : Nat
  exponent : Int

/-- The numbers `low ≤ value ≤ high` over one denominator; the ends round to the value when
`closed`. -/
structure Interval where
  low : Nat
  value : Nat
  high : Nat
  denominator : Nat
  closed : Bool

/-- The numbers that round to `m * 2 ^ q`. The gap below is half as wide at a power of two. -/
def interval (m : Nat) (q : Int) (narrow : Bool) : Interval :=
  let scale := Nat.pow 2 q.toNat
  { low := (if narrow then 4 * m - 1 else 4 * m - 2) * scale
    value := 4 * m * scale
    high := (4 * m + 2) * scale
    denominator := 4 * Nat.pow 2 (-q).toNat
    closed := m % 2 == 0 }

namespace Interval

def contains (i : Interval) (d : Nat) (e : Int) : Bool :=
  let x := d * Nat.pow 10 e.toNat * i.denominator
  let s := Nat.pow 10 (-e).toNat
  if i.closed then i.low * s ≤ x && x ≤ i.high * s else i.low * s < x && x < i.high * s

def distance (i : Interval) (d : Nat) (e : Int) : Nat :=
  let x := d * Nat.pow 10 e.toNat * i.denominator
  let v := i.value * Nat.pow 10 (-e).toNat
  max x v - min x v

def magnitude (i : Interval) : Int :=
  if i.denominator ≤ i.value then ((Nat.toDigits 10 (i.value / i.denominator)).length : Int) - 1
  else -(((List.range 400).find? fun k => i.denominator ≤ i.value * Nat.pow 10 (k + 1)).getD 400 + 1 : Int)

/-- The nearest number with `n` digits that rounds to the value; of two at the same distance the
even one. -/
def withDigits? (i : Interval) (n : Nat) : Option Scientific :=
  let e := i.magnitude - (n - 1 : Int)
  let d := i.value * Nat.pow 10 (-e).toNat / (i.denominator * Nat.pow 10 e.toNat)
  match i.contains d e, i.contains (d + 1) e with
  | true, true =>
    let below := i.distance d e
    let above := i.distance (d + 1) e
    some ⟨if below < above ∨ (below = above ∧ d % 2 = 0) then d else d + 1, e⟩
  | true, false => some ⟨d, e⟩
  | false, true => some ⟨d + 1, e⟩
  | false, false => none

/-- The number with the fewest digits; seventeen always suffice. -/
def shortest (i : Interval) : Scientific :=
  ((List.range' 1 17).findSome? i.withDigits?).getD ⟨0, 0⟩

end Interval

def dropZeros (digits : List Char) : List Char × Nat :=
  let kept := (digits.reverse.dropWhile (· = '0')).reverse
  (kept, digits.length - kept.length)

/-- Positional from 10^-5 up to 10^16 with a digit after the point, and with an exponent
elsewhere. -/
def render (s : Scientific) : String :=
  let (digits, dropped) := dropZeros (Nat.toDigits 10 s.digits)
  let e := s.exponent + dropped
  let point : Int := digits.length + e
  if -5 < point ∧ point ≤ 16 then
    if point ≤ 0 then
      "0." ++ String.ofList (List.replicate (-point).toNat '0' ++ digits)
    else if digits.length ≤ point.toNat then
      String.ofList (digits ++ List.replicate (point.toNat - digits.length) '0') ++ ".0"
    else
      String.ofList (digits.take point.toNat ++ '.' :: digits.drop point.toNat)
  else
    let first := digits.take 1
    let others := digits.drop 1
    let mantissa := if others = [] then first else first ++ '.' :: others
    let exponent := point - 1
    String.ofList mantissa ++ (if exponent < 0 then "e-" else "e+") ++ exponent.natAbs.repr

def ofFloat (f : Float) : String :=
  let bits := f.toBits.toNat
  let sign := if bits / Nat.pow 2 63 = 1 then "-" else ""
  let e : Nat := bits / Nat.pow 2 52 % Nat.pow 2 11
  let m : Nat := bits % Nat.pow 2 52
  if e = 0 ∧ m = 0 then sign ++ "0.0"
  else
    let i := if e = 0 then interval m (-1074) false
      else interval (Nat.pow 2 52 + m) ((e : Int) - 1075) (m == 0 && e != 1)
    sign ++ render i.shortest

end Storefront.Decimal
