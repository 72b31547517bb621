/-! What the samples of a PNG file mean, and how many bits they have. -/

namespace Storefront.Png

inductive ColorType where
  | gray
  | rgb
  | indexed
  | grayAlpha
  | rgba
deriving DecidableEq

def ColorType.channels : ColorType → Nat
  | .gray | .indexed => 1
  | .grayAlpha => 2
  | .rgb => 3
  | .rgba => 4

def ColorType.toByte : ColorType → UInt8
  | .gray => 0
  | .rgb => 2
  | .indexed => 3
  | .grayAlpha => 4
  | .rgba => 6

def ColorType.ofByte? : UInt8 → Option ColorType
  | 0 => some .gray
  | 2 => some .rgb
  | 3 => some .indexed
  | 4 => some .grayAlpha
  | 6 => some .rgba
  | _ => none

inductive Depth where
  | one
  | two
  | four
  | eight
  | sixteen
deriving DecidableEq

def Depth.bits : Depth → Nat
  | .one => 1
  | .two => 2
  | .four => 4
  | .eight => 8
  | .sixteen => 16

def Depth.ofByte? : UInt8 → Option Depth
  | 1 => some .one
  | 2 => some .two
  | 4 => some .four
  | 8 => some .eight
  | 16 => some .sixteen
  | _ => none

/-- Few bits are for gray and for palettes, sixteen for all but palettes. -/
def ColorType.allows : ColorType → Depth → Bool
  | .gray, _ => true
  | .indexed, d => d != .sixteen
  | _, d => d == .eight || d == .sixteen

def ColorType.name : ColorType → String
  | .gray => "Grayscale"
  | .rgb => "Rgb"
  | .indexed => "Indexed"
  | .grayAlpha => "GrayscaleAlpha"
  | .rgba => "Rgba"

def Depth.name : Depth → String
  | .one => "One"
  | .two => "Two"
  | .four => "Four"
  | .eight => "Eight"
  | .sixteen => "Sixteen"

end Storefront.Png
