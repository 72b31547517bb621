import Storefront.Geometry.Fit
import Storefront.Image.FileFormat
import Storefront.Png.Encode

/-! Reasons why a picture cannot be brought onto its canvas and into a file. -/

namespace Storefront

inductive ImageError where
  | io (e : FileError)
  | decode (e : DecodeError)
  | encode (e : Png.EncodeError)
  | invalidDimensions (d : Dimensions)
  | arithmetic (e : ArithmeticError)
deriving DecidableEq

def ImageError.message : ImageError → String
  | .io e => "I/O error: " ++ e.message
  | .decode e => "Decode error: " ++ e.message
  | .encode e => "Encode error: " ++ e.message
  | .invalidDimensions d => "Invalid dimensions " ++ d.display
  | .arithmetic e => e.message

end Storefront
