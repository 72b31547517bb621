/-! Reasons why a compressed stream cannot be read. -/

namespace Storefront

inductive DeflateError where
  | badHeader
  | insufficientInput
  | invalidBlockType
  | invalidStoredLength
  | invalidLiteralCount
  | invalidDistanceCount
  | invalidLengthRepeat
  | badLengthTree
  | badLiteralTree
  | badDistanceTree
  | invalidDistanceCode
  | distanceTooFar
deriving DecidableEq

def DeflateError.name : DeflateError → String
  | .badHeader => "BadZlibHeader"
  | .insufficientInput => "InsufficientInput"
  | .invalidBlockType => "InvalidBlockType"
  | .invalidStoredLength => "InvalidUncompressedBlockLength"
  | .invalidLiteralCount => "InvalidHlit"
  | .invalidDistanceCount => "InvalidHdist"
  | .invalidLengthRepeat => "InvalidCodeLengthRepeat"
  | .badLengthTree => "BadCodeLengthHuffmanTree"
  | .badLiteralTree => "BadLiteralLengthHuffmanTree"
  | .badDistanceTree => "BadDistanceHuffmanTree"
  | .invalidDistanceCode => "InvalidDistanceCode"
  | .distanceTooFar => "DistanceTooFarBack"

end Storefront
