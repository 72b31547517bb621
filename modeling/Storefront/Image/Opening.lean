/-! The beginnings of files whose pictures are not read, and what can be wrong with them. -/

namespace Storefront

/-- Why a file yields no picture; `F` are the faults of its format. -/
inductive OpeningError (F : Type) where
  /-- The file ends where so many bytes are needed. -/
  | cut
  /-- The file ends where more of a text is needed. -/
  | ended
  | fault (f : F)
  | feature (name : String)
  | variant (name : String)
  | pixelDepth (bits : Nat)
  | tooLarge
  | noPicture
  /-- The picture is a file in itself, with a fault of its own. -/
  | inner (message : String)
  | unread
deriving DecidableEq

def OpeningError.map {F G : Type} (f : F → G) : OpeningError F → OpeningError G
  | cut => cut
  | ended => ended
  | fault e => fault (f e)
  | feature name => feature name
  | variant name => variant name
  | pixelDepth bits => pixelDepth bits
  | tooLarge => tooLarge
  | noPicture => noPicture
  | inner message => inner message
  | unread => unread

def maxPictureBytes : Nat := 536870912

abbrev Opening (F : Type) := StateT (List UInt8) (Except (OpeningError F))

namespace Opening

variable {F : Type}

def stop {α : Type} (e : OpeningError F) : Opening F α := fun _ => .error e

def fail {α : Type} (f : F) : Opening F α := stop (.fault f)

def check (holds : Bool) (f : F) : Opening F Unit :=
  if holds then pure () else fail f

def take (n : Nat) : Opening F (List UInt8) := fun bytes =>
  let read := bytes.take n
  if read.length < n then .error .cut else .ok (read, bytes.drop n)

def skip (n : Nat) : Opening F Unit := do
  let _ ← take n

def littleEndian (bytes : List UInt8) : Nat :=
  bytes.foldr (fun b n => b.toNat + 256 * n) 0

def bigEndian (bytes : List UInt8) : Nat :=
  bytes.foldl (fun n b => 256 * n + b.toNat) 0

/-- A number of `n` bytes, the low one first. -/
def low (n : Nat) : Opening F Nat := littleEndian <$> take n

def high (n : Nat) : Opening F Nat := bigEndian <$> take n

def byte : Opening F Nat := low 1

def reserve (bytes : Nat) : Opening F Unit :=
  if maxPictureBytes < bytes then stop .tooLarge else pure ()

def error (o : Opening F Unit) (content : List UInt8) : OpeningError F :=
  match o content with
  | .error e => e
  | .ok _ => .unread

end Opening

def oversizeText (width height : Nat) : String :=
  "Image dimensions (" ++ width.repr ++ "x" ++ height.repr ++ ") are too large"

def hexList (bytes : List UInt8) : String :=
  "[" ++ ", ".intercalate (bytes.map fun b => String.ofList (Nat.toDigits 16 b.toNat)) ++ "]"

def hexDigits (width n : Nat) : List Char :=
  let ds := Nat.toDigits 16 n
  List.replicate (width - ds.length) '0' ++ ds

def markedHex (width n : Nat) : String :=
  "0x" ++ String.ofList ((hexDigits width n).map Char.toUpper)

end Storefront
