import Storefront.Image.Raster
import Storefront.Color
import Storefront.Png.Chunk

/-! Pictures as PNG files of eight bits a channel, three channels, not interlaced. -/

namespace Storefront.Png

inductive EncodeError where
  | zeroWidth
  | zeroHeight
deriving DecidableEq

def EncodeError.message : EncodeError → String
  | .zeroWidth => "Zero width not allowed"
  | .zeroHeight => "Zero height not allowed"

def headerContent (d : Dimensions) : List UInt8 :=
  Deflate.bigEndian d.width ++ Deflate.bigEndian d.height ++ [8, 2, 0, 0, 0]

def colorBytes (c : Color) : List UInt8 :=
  [c.red, c.green, c.blue]

def rowBytes (r : Raster Color) (y : Nat) : List UInt8 :=
  0 :: (r.row y).toList.flatMap colorBytes

def rows (r : Raster Color) : List (List UInt8) :=
  (List.range r.size.height.toNat).map (rowBytes r)

def fileParts (r : Raster Color) : List (List UInt8) :=
  signature :: Chunk.write Chunk.header (headerContent r.size) ::
    (Deflate.store (rows r)).map (Chunk.write Chunk.imageData) ++ [Chunk.write Chunk.last []]

def pack (parts : List (List UInt8)) : ByteArray :=
  parts.foldl (fun file part => part.foldl ByteArray.push file) ByteArray.empty

def encode (r : Raster Color) : Except EncodeError ByteArray :=
  if r.size.width = 0 then .error .zeroWidth
  else if r.size.height = 0 then .error .zeroHeight
  else .ok (pack (fileParts r))

end Storefront.Png
