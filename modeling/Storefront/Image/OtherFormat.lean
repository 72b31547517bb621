import Storefront.Image.Opening.Farbfeld
import Storefront.Image.Opening.Gif
import Storefront.Image.Opening.IconFile
import Storefront.Image.Opening.Jpeg
import Storefront.Image.Opening.OpenExr
import Storefront.Image.Opening.PortableMap
import Storefront.Image.Opening.Qoi
import Storefront.Image.Opening.Radiance
import Storefront.Image.Opening.Surface
import Storefront.Image.Opening.Targa
import Storefront.Image.Opening.Tiff
import Storefront.Image.Opening.WebP

/-! Formats other than PNG, and what is said of a file of theirs. -/

namespace Storefront

inductive OtherFormat where
  | avif
  | bmp
  | dds
  | farbfeld
  | gif
  | hdr
  | ico
  | jpeg
  | openExr
  | pnm
  | qoi
  | tga
  | tiff
  | webP
deriving DecidableEq

namespace OtherFormat

def name : OtherFormat → String
  | avif => "Avif"
  | bmp => "Bmp"
  | dds => "Dds"
  | farbfeld => "Farbfeld"
  | gif => "Gif"
  | hdr => "Hdr"
  | ico => "Ico"
  | jpeg => "Jpeg"
  | openExr => "OpenExr"
  | pnm => "Pnm"
  | qoi => "Qoi"
  | tga => "Tga"
  | tiff => "Tiff"
  | webP => "WebP"

def opening (f : OtherFormat) (content : List UInt8) : OpeningError String :=
  match f with
  | avif => .unread
  | bmp => (Opening.Bitmap.opening.error content).map (·.text)
  | dds => (Opening.Surface.opening.error content).map (·.text)
  | farbfeld => (Opening.Farbfeld.opening.error content).map (·.text)
  | gif => (Opening.Gif.opening.error content).map (·.text)
  | hdr => (Opening.Radiance.opening.error content).map (·.text)
  | ico => (Opening.IconFile.opening.error content).map (·.text)
  | jpeg => (Opening.Jpeg.opening.error content).map (·.text)
  | openExr => (Opening.OpenExr.opening.error content).map (·.text)
  | pnm => (Opening.PortableMap.opening.error content).map (·.text)
  | qoi => (Opening.Qoi.opening.error content).map (·.text)
  | tga => (Opening.Targa.opening.error content).map (·.text)
  | tiff => (Opening.Tiff.opening.error content).map (·.text)
  | webP => (Opening.WebP.opening.error content).map (·.text)

def formatError (f : OtherFormat) (text : String) : String :=
  "Format error decoding " ++ f.name ++ ": " ++ text

def cutText (f : OtherFormat) : String :=
  match f with
  | gif => f.formatError "Unexpected End of File"
  | openExr => f.formatError "invalid: reference to missing bytes"
  | qoi => f.formatError "i/o error: failed to fill whole buffer"
  | _ => "failed to fill whole buffer"

def errorText (f : OtherFormat) : OpeningError String → String
  | .cut => f.cutText
  | .ended => "unexpected end of file"
  | .fault text => f.formatError text
  | .feature text =>
    "The decoder for " ++ f.name ++ " does not support the format features " ++ text
  | .variant text => "The image format \x60" ++ text ++ "\x60 is not supported"
  | .pixelDepth bits =>
    "The encoder or decoder for " ++ f.name ++ " does not support the color type \x60Unknown(" ++
      bits.repr ++ ")\x60"
  | .tooLarge => "Memory limit exceeded"
  | .noPicture => "The end of the image has been reached"
  | .inner message => message
  | .unread => "The image format " ++ f.name ++ " is not supported"

end OtherFormat
end Storefront
