import Storefront.Deflate.Error
import Storefront.Png.ColorType
import Storefront.Text.Quoted

/-! Reasons why a file cannot be read as a PNG picture. -/

namespace Storefront.Png

inductive Error where
  | endOfFile
  | signature
  | beforeHeader (kind : List UInt8)
  | chunkLength (kind : List UInt8)
  | unknownCritical (kind : List UInt8)
  | checksum (kind : List UInt8) (stored computed : UInt32)
  | duplicateChunk (kind : List UInt8)
  | emptySize
  | bitDepth (n : UInt8)
  | colorType (n : UInt8)
  | depthOfColor (c : ColorType) (d : Depth)
  | compressionMethod (n : UInt8)
  | filterMethod (n : UInt8)
  | interlaceMethod (n : UInt8)
  /-- Coding of colors that no picture has, or a background from a palette that is not there. -/
  | invalidContent
  | frameOrder (expected found : Nat)
  | disposal (n : UInt8)
  | blending (n : UInt8)
  | frameBounds
  | frameDataRestart (kind : List UInt8)
  | imageDataMissing
  | tooLarge
  | paletteMissing
  | tooLittleData
  | deflate (e : DeflateError)
deriving DecidableEq

namespace Error

def kindChar (b : UInt8) : List Char :=
  if b = 39 then ['\\', '\''] else Quoted.escape (Char.ofNat b.toNat)

/-- The bit of a letter that tells small from capital ones. -/
def isSmall (b : UInt8) : Bool := b / 32 % 2 == 1

def boolText (b : Bool) : String := if b then "true" else "false"

def kindText (kind : List UInt8) : String :=
  let small (i : Nat) := isSmall (kind.getD i 0)
  "ChunkType \x7b type: " ++ String.ofList (kind.flatMap kindChar) ++
    ", critical: " ++ boolText (!small 0) ++ ", private: " ++ boolText (small 1) ++
    ", reserved: " ++ boolText (small 2) ++ ", safecopy: " ++ boolText (small 3) ++ " \x7d"

def hex (n : UInt32) : String :=
  "0x" ++ String.ofList (Nat.toDigits 16 n.toNat)

def formatText : Error → String
  | .endOfFile | .invalidContent | .tooLarge => ""
  | .signature => "Invalid PNG signature."
  | .beforeHeader kind => kindText kind ++ " chunk appeared before IHDR chunk"
  | .chunkLength kind => "Chunk length wrong: " ++ kindText kind
  | .unknownCritical kind => "Unrecognized critical chunk: " ++ kindText kind
  | .checksum kind stored computed =>
    "CRC error: expected " ++ hex stored ++ " have " ++ hex computed ++ " while decoding " ++
      kindText kind ++ " chunk."
  | .duplicateChunk kind => "Chunk " ++ kindText kind ++ " must appear at most once."
  | .emptySize => "Invalid image dimensions"
  | .bitDepth n => "Invalid bit depth " ++ n.toNat.repr ++ "."
  | .colorType n => "Invalid color type " ++ n.toNat.repr ++ "."
  | .depthOfColor c d => "Invalid color/depth combination in header: " ++ c.name ++ "/" ++ d.name
  | .compressionMethod n => "Unknown compression method " ++ n.toNat.repr ++ "."
  | .filterMethod n => "Unknown filter method " ++ n.toNat.repr ++ "."
  | .interlaceMethod n => "Unknown interlace method " ++ n.toNat.repr ++ "."
  | .frameOrder expected found =>
    "Sequence is not in order, expected #" ++ expected.repr ++ " got #" ++ found.repr ++ "."
  | .disposal n => "Invalid dispose op " ++ n.toNat.repr ++ "."
  | .blending n => "Invalid blend op " ++ n.toNat.repr ++ "."
  | .frameBounds => "Sub frame is out-of-bounds."
  | .frameDataRestart kind => "Unexpected restart of " ++ kindText kind ++ " chunk sequence"
  | .imageDataMissing => "IDAT or fdAT chunk is missing."
  | .paletteMissing => "Missing palette of indexed image."
  | .tooLittleData => "IDAT or fDAT chunk does not have enough data for image."
  | .deflate e => "Corrupt deflate stream. " ++ e.name

def message : Error → String
  | .endOfFile => "unexpected end of file"
  | .invalidContent => "invalid data"
  | .tooLarge => "Memory limit exceeded"
  | e => "Format error decoding Png: " ++ e.formatText

end Error
end Storefront.Png
