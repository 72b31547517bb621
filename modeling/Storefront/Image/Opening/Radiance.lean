import Storefront.Decimal.Literal
import Storefront.Image.Opening
import Storefront.Text.Blank

/-! The headers of Radiance HDR files. -/

namespace Storefront.Opening.Radiance

inductive Fault where
  | signature
  | cutHeader
  | cutDimensions
  | number (line : String) (isEmpty : Bool)
  | tooFew (line : String)
  | tooMany
  | shortDimensions (found : Nat)
  | longDimensions
  | dimension (line : String) (e : Decimal.WholeFault)
deriving DecidableEq

def Fault.text : Fault → String
  | signature => "Radiance HDR signature not found"
  | cutHeader => "EOF in header"
  | cutDimensions => "EOF in dimensions line"
  | number line isEmpty =>
    "Cannot parse " ++ line ++ " value as f32: " ++
      if isEmpty then "cannot parse float from empty string" else "invalid float literal"
  | tooFew line => "Not enough numbers in " ++ line
  | tooMany => "Extra numbers in COLORCORR"
  | shortDimensions n =>
    "Dimensions line too short: have " ++ n.repr ++ " elements, expected 4"
  | longDimensions => "Dimensions line too long, expected 4 elements"
  | dimension line e => "Cannot parse " ++ line ++ " dimension value as u32: " ++ e.text

def signature : List UInt8 := [35, 63, 82, 65, 68, 73, 65, 78, 67, 69]

/-- The characters of bytes; beyond ASCII it is not looked at which ones. -/
def characters (bytes : List UInt8) : List Char :=
  bytes.map fun b => if b < 128 then Char.ofNat b.toNat else '\ufffd'

def line? : Opening Fault (Option (List Char)) := do
  let bytes ← get
  match bytes with
  | [] => return none
  | bytes =>
    let line := bytes.takeWhile (· ≠ 10)
    set (bytes.drop (line.length + 1))
    return some (characters line)

def words (s : List Char) : List (List Char) :=
  ((s.splitBy fun a b => isBlank a == isBlank b).filter fun w => !w.any isBlank)

def shortened (n : Nat) (s : List Char) : String :=
  if n < s.length then String.ofList (s.take n) ++ "..." else String.ofList s

def number (line : String) (s : List Char) : Opening Fault Unit :=
  check (Decimal.isNumber s) (.number line s.isEmpty)

def corrections : Nat → List (List Char) → Opening Fault Unit
  | 0, ws => check ws.isEmpty .tooMany
  | _ + 1, [] => fail (.tooFew "COLORCORR")
  | n + 1, w :: ws => do
    number "COLORCORR" w
    corrections n ws

def coding : String := "32-bit_rle_rgbe"

/-- A line of the header. Lines without an equals sign and unknown ones say nothing. -/
def setting (line : List Char) : Opening Fault Unit :=
  let key := line.takeWhile (· ≠ '=')
  match line.drop key.length with
  | [] => pure ()
  | _ :: value =>
    match String.ofList (trim key) with
    | "FORMAT" =>
      if String.ofList (trim value) = coding then pure () else stop (.variant (shortened 20 value))
    | "EXPOSURE" => number "EXPOSURE" (trim value)
    | "PIXASPECT" => number "PIXASPECT" (trim value)
    | "COLORCORR" => corrections 3 (words value)
    | _ => pure ()

/-- The lines of the header, up to an empty one. Lines that begin with a hash sign are comments. -/
def settings : Nat → Opening Fault Unit
  | 0 => fail .cutHeader
  | fuel + 1 => do
    match ← line? with
    | none => fail .cutHeader
    | some [] => pure ()
    | some ('#' :: _) => settings fuel
    | some line =>
      setting line
      settings fuel

def dimension (line : String) (s : List Char) : Opening Fault Nat :=
  match Decimal.whole (1 <<< 32) s with
  | .ok n => pure n
  | .error e => fail (.dimension line e)

def dimensions (line : List Char) : Opening Fault (Nat × Nat) :=
  match words line with
  | [y, height, x, width] => do
    if y = ['-', 'Y'] ∧ x = ['+', 'X'] then
      let height ← dimension "height" height
      return (← dimension "width" width, height)
    stop (.feature ("Orientation " ++ shortened 4 y ++ " " ++ shortened 4 x))
  | ws => if ws.length < 4 then fail (.shortDimensions ws.length) else fail .longDimensions

/-- The most pixels of three bytes whose number of bytes is one of 64 bits. -/
def maxPixels : Nat := ((1 <<< 64) - 1) / 3

def opening : Opening Fault Unit := do
  check ((← take 10) = signature) .signature
  let _ ← line?
  settings ((← get).length + 1)
  match ← line? with
  | none => fail .cutDimensions
  | some line => do
    let (width, height) ← dimensions line
    if maxPixels < width * height then stop (.feature (oversizeText width height))
    reserve (12 * width * height)
    skip (min 4 (width * height))

end Storefront.Opening.Radiance
