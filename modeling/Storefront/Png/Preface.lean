import Storefront.Png.Frame

/-! What stands in a PNG file before the image data. -/

namespace Storefront.Png

inductive Transparency where
  /-- Pixels with the samples of the key are transparent, without a key none. -/
  | key (samples : Option (List UInt16))
  /-- The first colors of the palette have these alphas, the others are opaque. -/
  | palette (alphas : List UInt8)

namespace Transparency

def words : List UInt8 → List UInt16
  | a :: b :: rest => (a.toUInt16 * 256 + b.toUInt16) :: words rest
  | _ => []

/-- The key of `n` samples. Samples of sixteen bits are compared with all of the content, so that
more of it matches no pixel; of the others only the low bytes count. -/
def ofKey? (d : Depth) (n : Nat) (content : List UInt8) : Option Transparency :=
  let samples := (words content).take n
  if samples.length < n then none
  else match d with
    | .sixteen => some (.key (if content.length = 2 * n then some samples else none))
    | _ => some (.key (some (samples.map (· % 256))))

/-- Alphas of the palette; more than it has colors say nothing. -/
def ofAlphas (palette alphas : List UInt8) : Transparency :=
  .palette (if alphas.length ≤ palette.length / 3 then alphas else [])

def read? (h : Header) (palette : Option (List UInt8)) (content : List UInt8) :
    Option Transparency :=
  match h.color with
  | .gray => ofKey? h.depth 1 content
  | .rgb => ofKey? h.depth 3 content
  | .indexed => palette.map fun p => ofAlphas p content
  | .grayAlpha | .rgba => none

def hides (t : Transparency) (samples : List UInt16) : Bool :=
  match t with
  | .key (some k) => k == samples
  | .key none | .palette _ => false

def alphas : Transparency → List UInt8
  | .key _ => []
  | .palette a => a

end Transparency

structure Preface where
  header : Header
  palette : Option (List UInt8)
  transparency : Option Transparency
  coding : Bool
  frame : Option UInt32

namespace Preface

def ofHeader (h : Header) : Preface := ⟨h, none, none, false, none⟩

def lacksPalette (p : Preface) : Bool :=
  p.header.color == .indexed && p.palette.isNone

/-- Checks the first chunk on the coding of colors before a palette: no matrix, and a range that
is full or not. -/
def addCoding (p : Preface) (content : List UInt8) : Except Error Preface :=
  if p.coding || p.palette.isSome then .ok p
  else if content.getD 2 0 ≠ 0 ∨ 1 < content.getD 3 0 then .error .invalidContent
  else .ok { p with coding := true }

def add (p : Preface) (kind content : List UInt8) : Except Error Preface :=
  if kind = Chunk.header then .error (.duplicateChunk kind)
  else if kind = Chunk.last then .error .imageDataMissing
  else if kind = Chunk.palette then
    if p.palette.isSome then .error (.duplicateChunk kind) else .ok { p with palette := some content }
  else if kind = Chunk.transparency then
    match p.transparency with
    | some _ => .ok p
    | none => .ok { p with transparency := Transparency.read? p.header p.palette content }
  else if kind = Chunk.codePoints then p.addCoding content
  else if kind = Chunk.background then
    if p.lacksPalette then .error .invalidContent else .ok p
  else if kind = Chunk.frameControl then do
    return { p with frame := some (← Frame.read p.header p.frame content) }
  else .ok p

end Preface

/-- Reads chunks up to the first one of image data: its length and what follows its kind. The data
of a frame may not come first. Every chunk has twelve bytes at least, so as many steps as there are
bytes suffice. -/
def readPreface : Nat → Preface → List UInt8 → Except Error (Preface × Nat × List UInt8)
  | 0, _, _ => .error .endOfFile
  | fuel + 1, p, bytes => do
    let (length, kind, bytes) ← readStart bytes
    if kind = Chunk.imageData then return (p, length, bytes)
    if kind = Chunk.frameData then throw (.frameDataRestart kind)
    let (content, bytes) ← readAncillary length kind bytes
    match content with
    | none => readPreface fuel p bytes
    | some content => readPreface fuel (← p.add kind content) bytes

end Storefront.Png
