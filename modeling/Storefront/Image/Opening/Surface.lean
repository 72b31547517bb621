import Storefront.Image.Opening

/-! The headers of DDS files. -/

namespace Storefront.Opening.Surface

inductive Fault where
  | signature
  | headerSize (n : Nat)
  | flags (n : Nat)
  | formatSize (n : Nat)
deriving DecidableEq

def Fault.text : Fault → String
  | signature => "DDS signature not found"
  | headerSize n => "Invalid DDS header size: " ++ n.repr
  | flags n => "Invalid DDS header flags: " ++ markedHex 8 n
  | formatSize n => "Invalid DDS PixelFormat size: " ++ n.repr

def required : Nat := 0x1007
def allowed : Nat := 0x8A100F

def codes : List (List UInt8 × Nat) :=
  [([68, 88, 84, 49], 8), ([68, 88, 84, 51], 16), ([68, 88, 84, 53], 16)]

def opening : Opening Fault Unit := do
  check ((← take 4) = [68, 68, 83, 32]) .signature
  let size ← low 4
  check (size = 124) (.headerSize size)
  let flags ← low 4
  check (flags &&& required = required && flags ||| allowed = allowed) (.flags flags)
  let height ← low 4
  let width ← low 4
  skip 56
  let formatSize ← low 4
  check (formatSize = 32) (.formatSize formatSize)
  let kind ← low 4
  let code ← take 4
  skip 40
  if kind / 4 % 2 = 0 then stop (.variant "DDS")
  match codes.lookup code with
  | some n =>
    reserve (width * height * if n = 8 then 3 else 4)
    skip ((width + 3) / 4 * ((height + 3) / 4) * n)
  | none =>
    if code = [68, 88, 49, 48] then skip 20
    else
      stop (.feature
        ("DDS FourCC [" ++ ", ".intercalate (code.map fun b => b.toNat.repr) ++ "]"))

end Storefront.Opening.Surface
