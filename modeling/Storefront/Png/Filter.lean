import Storefront.Png.Error

/-! The filters of rows: each byte less a guess from the bytes before it and above it. -/

namespace Storefront.Png

inductive Filter where
  | none
  | sub
  | up
  | average
  | paeth
deriving DecidableEq

namespace Filter

def ofByte? : UInt8 → Option Filter
  | 0 => some .none
  | 1 => some .sub
  | 2 => some .up
  | 3 => some .average
  | 4 => some .paeth
  | _ => Option.none

/-- The one of three bytes that is nearest to `left + above - corner`, the first of equals. -/
def nearest (left above corner : UInt8) : UInt8 :=
  let p : Int := left.toNat + above.toNat - corner.toNat
  let a := (p - left.toNat).natAbs
  let b := (p - above.toNat).natAbs
  let c := (p - corner.toNat).natAbs
  if a ≤ b ∧ a ≤ c then left else if b ≤ c then above else corner

def guess (f : Filter) (left above corner : UInt8) : UInt8 :=
  match f with
  | .none => 0
  | .sub => left
  | .up => above
  | .average => ((left.toNat + above.toNat) / 2).toUInt8
  | .paeth => nearest left above corner

def back (row : Array UInt8) (stride i : Nat) : UInt8 :=
  if stride ≤ i then row.getD (i - stride) 0 else 0

def undo (f : Filter) (stride : Nat) (above : Array UInt8) (filtered : List UInt8) : Array UInt8 :=
  match f with
  | .none => filtered.toArray
  | f =>
    filtered.foldl
      (fun row b =>
        let i := row.size
        row.push (b + f.guess (back row stride i) (above.getD i 0) (back above stride i)))
      #[]

end Filter

/-- Rows from their filtered bytes, `count` of them with `length` bytes each, below `above`, and
what is left over. -/
def unfilter (stride length : Nat) :
    Nat → Array UInt8 → List UInt8 → Except Error (List (Array UInt8) × List UInt8)
  | 0, _, bytes => .ok ([], bytes)
  | _ + 1, _, [] => .error .tooLittleData
  | count + 1, above, kind :: bytes =>
    let filtered := bytes.take length
    if filtered.length < length then .error .tooLittleData
    else match Filter.ofByte? kind with
      | none => .error (.filterMethod kind)
      | some f => do
        let row := f.undo stride above filtered
        let (rows, rest) ← unfilter stride length count row (bytes.drop length)
        return (row :: rows, rest)

end Storefront.Png
