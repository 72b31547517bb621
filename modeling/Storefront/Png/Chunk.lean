import Storefront.Deflate.Store
import Storefront.Png.Error

/-! Chunks of a PNG file: a length, a kind, the content, and a check sum over kind and content. -/

namespace Storefront.Png

/-- The remainder of eight more zero bits. -/
def crcEntry (c : UInt32) : UInt32 :=
  (List.range 8).foldl (fun c _ => if c % 2 = 1 then (0xEDB88320 : UInt32) ^^^ (c >>> 1) else c >>> 1) c

def crcTable : Array UInt32 :=
  Array.ofFn fun n : Fin 256 => crcEntry n.val.toUInt32

def crcStep (c : UInt32) (b : UInt8) : UInt32 :=
  crcTable.getD ((c ^^^ b.toUInt32) % 256).toNat 0 ^^^ (c >>> 8)

def crc (bytes : List UInt8) : UInt32 :=
  bytes.foldl crcStep 0xFFFFFFFF ^^^ 0xFFFFFFFF

def signature : List UInt8 := [137, 80, 78, 71, 13, 10, 26, 10]

namespace Chunk

def header : List UInt8 := [73, 72, 68, 82]
def palette : List UInt8 := [80, 76, 84, 69]
def transparency : List UInt8 := [116, 82, 78, 83]
def imageData : List UInt8 := [73, 68, 65, 84]
def last : List UInt8 := [73, 69, 78, 68]
def frameControl : List UInt8 := [102, 99, 84, 76]
def frameData : List UInt8 := [102, 100, 65, 84]
def codePoints : List UInt8 := [99, 73, 67, 80]
def background : List UInt8 := [98, 75, 71, 68]

/-- A reader may not pass over a chunk whose kind begins with a capital letter. -/
def isCritical (kind : List UInt8) : Bool :=
  match kind with
  | c :: _ => c / 32 % 2 == 0
  | [] => false

/-- The shortest and the longest content of the kinds for which these are laid down. -/
def lengths : List (List UInt8 × Nat × Nat) :=
  [(header, 13, 13), (palette, 3, 768), (last, 0, 0), (transparency, 1, 256),
   (frameControl, 26, 26), (codePoints, 4, 4), (background, 1, 6)]

def allowsLength (kind : List UInt8) (length : Nat) : Bool :=
  match lengths.lookup kind with
  | none => true
  | some (least, most) => least ≤ length && length ≤ most

def isKnown (kind : List UInt8) : Bool :=
  [header, palette, imageData, last].contains kind

def write (kind content : List UInt8) : List UInt8 :=
  Deflate.bigEndian content.length.toUInt32 ++ (kind ++ (content ++
    Deflate.bigEndian (crc (kind ++ content))))

end Chunk

def word (a b c d : UInt8) : UInt32 :=
  ((a.toUInt32 * 256 + b.toUInt32) * 256 + c.toUInt32) * 256 + d.toUInt32

def readStart : List UInt8 → Except Error (Nat × List UInt8 × List UInt8)
  | a :: b :: c :: d :: e :: f :: g :: h :: rest => .ok ((word a b c d).toNat, [e, f, g, h], rest)
  | _ => .error .endOfFile

/-- The content of a chunk and what comes after its check sum. A wrong check sum takes an
ancillary chunk away and is a fault in any other. -/
def readContent (length : Nat) (kind bytes : List UInt8) :
    Except Error (Option (List UInt8) × List UInt8) :=
  let content := bytes.take length
  match bytes.drop length with
  | a :: b :: c :: d :: rest =>
    let stored := word a b c d
    let computed := crc (kind ++ content)
    if stored = computed then .ok (some content, rest)
    else if Chunk.isCritical kind then .error (.checksum kind stored computed)
    else .ok (none, rest)
  | _ => .error .endOfFile

/-- What is wrong with a chunk already by its kind and length. The length of other ancillary
chunks only takes them away. -/
def startFault? (kind : List UInt8) (length : Nat) : Option Error :=
  if !Chunk.allowsLength kind length && (Chunk.isCritical kind || kind == Chunk.frameControl) then
    some (.chunkLength kind)
  else if Chunk.isCritical kind && !Chunk.isKnown kind then some (.unknownCritical kind)
  else none

def readAncillary (length : Nat) (kind bytes : List UInt8) :
    Except Error (Option (List UInt8) × List UInt8) := do
  if let some e := startFault? kind length then throw e
  let (content, bytes) ← readContent length kind bytes
  return (if Chunk.allowsLength kind length then content else none, bytes)

end Storefront.Png
