import Storefront.Image.Opening.Bitmap
import Storefront.Png.Decode

/-! The directories of ICO files, and the pictures to which their entries lead. -/

namespace Storefront.Opening.IconFile

inductive Coding where
  | png
  | bmp
deriving DecidableEq

inductive Fault where
  | noEntry
  | planes
  | depth
  | dimensions (coding : Coding) (entry picture : Nat × Nat)
  | notRgba
  | shortPicture
deriving DecidableEq

def sizeText (size : Nat × Nat) : String :=
  "(" ++ size.1.repr ++ ", " ++ size.2.repr ++ ")"

def Fault.text : Fault → String
  | noEntry => "ICO directory contains no image"
  | planes => "ICO image entry has too many color planes or too large hotspot value"
  | depth => "ICO image entry has too many bits per pixel or too large hotspot value"
  | dimensions coding entry picture =>
    "Entry" ++ sizeText entry ++ " and " ++ (match coding with | .png => "PNG" | .bmp => "BMP") ++
      sizeText picture ++ " dimensions do not match!"
  | notRgba => "The PNG is not in RGBA format!"
  | shortPicture => "Entry specified a length that is shorter than PNG header!"

structure Entry where
  width : Nat
  height : Nat
  depth : Nat
  length : Nat
  place : Nat

/-- The length of a side; zero stands for what is too long for a byte. -/
def side (n : Nat) : Nat := if n = 0 then 256 else n

def entry : Opening Fault Entry := do
  let width ← byte
  let height ← byte
  skip 2
  check ((← low 2) ≤ 256) .planes
  let depth ← low 2
  check (depth ≤ 256) .depth
  return ⟨side width, side height, depth, ← low 4, ← low 4⟩

def entries : Nat → Opening Fault (List Entry)
  | 0 => pure []
  | n + 1 => do
    let e ← entry
    return e :: (← entries n)

/-- The entry is better than another: it has more bits a pixel, or more pixels as deep as those. -/
def Entry.beats (a b : Entry) : Bool :=
  b.depth < a.depth || a.depth = b.depth && b.width * b.height < a.width * a.height

/-- The best entry; of equals the last one counts, and after it the first. -/
def best? (es : List Entry) : Option Entry :=
  es.getLast?.map fun last => es.dropLast.foldl (fun b e => if e.beats b then e else b) last

def Entry.fits (e : Entry) (coding : Coding) (width height : Nat) : Opening Fault Unit :=
  check (e.width = min width 256 && e.height = min height 256)
    (.dimensions coding (e.width, e.height) (width, height))

def png (e : Entry) (content : List UInt8) : Opening Fault Unit := do
  match Png.readSignature content >>= Png.readHeader with
  | .error fault => stop (.inner fault.message)
  | .ok (h, _) =>
    let width := h.size.width.toNat
    let height := h.size.height.toNat
    if e.width < width ∨ e.height < height then stop (.inner "Image size exceeds limit")
    match Png.decode content with
    | .error fault => stop (.inner fault.message)
    | .ok (_, p) =>
      check (8 ≤ e.length) .shortPicture
      e.fits .png width height
      match p with
      | .rgba8 _ => pure ()
      | _ => fail .notRgba

def bitmapError : OpeningError Bitmap.Fault → OpeningError Fault
  | .fault f => .inner ("Format error decoding Bmp: " ++ f.text)
  | .feature name =>
    .inner ("The decoder for Bmp does not support the format features " ++ name)
  | .variant name => .variant name
  | .pixelDepth n => .pixelDepth n
  | .tooLarge => .tooLarge
  | .inner message => .inner message
  | .cut | .ended | .noPicture => .cut
  | .unread => .unread

/-- A picture without the header of a file. Its height counts a mask as well. -/
def bitmap (e : Entry) (file : List UInt8) : Opening Fault Unit := do
  match Bitmap.layout file e.place file with
  | .error fault => stop (bitmapError fault)
  | .ok (l, rest) =>
    e.fits .bmp l.width (l.height / 2)
    match Bitmap.pixels { l with height := l.height / 2 } rest with
    | .error fault => stop (bitmapError fault)
    | .ok _ => pure ()

def opening : Opening Fault Unit := do
  let file ← get
  skip 4
  match best? (← entries (← low 2)) with
  | none => fail .noEntry
  | some e => do
    set (file.drop e.place)
    if (← take 8) = Png.signature then png e (file.drop e.place) else bitmap e file

end Storefront.Opening.IconFile
