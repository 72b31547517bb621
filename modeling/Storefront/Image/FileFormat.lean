import Storefront.Files.Error
import Storefront.Image.OtherFormat
import Storefront.Path
import Storefront.Png.Decode
import Storefront.Text.Quoted

/-! Pictures from files. The extension of a name alone says how its file is read. -/

namespace Storefront

inductive ImageFormat where
  | png
  | other (f : OtherFormat)
deriving DecidableEq

def ImageFormat.ofExtension? (extension : String) : Option ImageFormat :=
  match String.ofList (extension.toList.map Char.toLower) with
  | "png" | "apng" => some .png
  | "jpg" | "jpeg" | "jfif" => some (.other .jpeg)
  | "avif" => some (.other .avif)
  | "gif" => some (.other .gif)
  | "webp" => some (.other .webP)
  | "tif" | "tiff" => some (.other .tiff)
  | "tga" => some (.other .tga)
  | "dds" => some (.other .dds)
  | "bmp" => some (.other .bmp)
  | "ico" => some (.other .ico)
  | "hdr" => some (.other .hdr)
  | "exr" => some (.other .openExr)
  | "pbm" | "pam" | "ppm" | "pgm" | "pnm" => some (.other .pnm)
  | "ff" => some (.other .farbfeld)
  | "qoi" => some (.other .qoi)
  | _ => none

inductive DecodeError where
  | file (e : FileError)
  | undetermined
  | unknownExtension (extension : String)
  | other (f : OtherFormat) (e : OpeningError String)
  | png (e : Png.Error)
deriving DecidableEq

namespace DecodeError

def message : DecodeError → String
  | .file e => e.message
  | .undetermined => "The image format could not be determined"
  | .unknownExtension extension =>
    "The file extension \x60." ++ Quoted.quote extension ++
      "\x60 was not recognized as an image format"
  | .other f e => f.errorText e
  | .png e => e.message

end DecodeError

def imageFormat (p : Path) : Except DecodeError ImageFormat :=
  match p.extension? with
  | none => .error .undetermined
  | some extension =>
    if extension = "" then .error .undetermined
    else match ImageFormat.ofExtension? extension with
      | some f => .ok f
      | none => .error (.unknownExtension extension)

/-- The decoders of all formats but PNG. -/
class Codecs where
  decode : OtherFormat → List UInt8 → Except (OpeningError String) Picture

/-- No picture comes out of a file of another format. How the file begins tells what is wrong. -/
instance : Codecs where
  decode f content := .error (f.opening content)

variable [Codecs]

def ImageFormat.decode (f : ImageFormat) (content : List UInt8) : Except DecodeError Picture :=
  match f with
  | .png =>
    match Png.decodeWithin (some maxPictureBytes) content with
    | .ok (_, p) => .ok p
    | .error e => .error (.png e)
  | .other f => (Codecs.decode f content).mapError (.other f)

/-- The picture at a path, from what reading the file gave. A directory can be opened and not
read, so the name is looked at before that fault and after all others. -/
def openPicture (p : Path) (content : Except FileError ByteArray) : Except DecodeError Picture :=
  match content with
  | .ok bytes => do (← imageFormat p).decode bytes.data.toList
  | .error .isDirectory => do
    let _ ← imageFormat p
    throw (.file .isDirectory)
  | .error e => .error (.file e)

end Storefront
