/-! Reasons why a file operation fails. -/

namespace Storefront

inductive FileError where
  | notFound
  | alreadyExists
  | notDirectory
  | isDirectory
  | tooManyLinks
  | nameTooLong
  | nulByte
  | notText
  | system (code : UInt32) (text : String)
deriving DecidableEq

namespace FileError

def osText (text : String) (code : Nat) : String :=
  text ++ " (os error " ++ code.repr ++ ")"

def ofCode (code : UInt32) (text : String) : FileError :=
  match code with
  | 2 => .notFound
  | 17 => .alreadyExists
  | 20 => .notDirectory
  | 21 => .isDirectory
  | 36 => .nameTooLong
  | 40 => .tooManyLinks
  | code => .system code text

def message : FileError → String
  | .notFound => osText "No such file or directory" 2
  | .alreadyExists => osText "File exists" 17
  | .notDirectory => osText "Not a directory" 20
  | .isDirectory => osText "Is a directory" 21
  | .nameTooLong => osText "File name too long" 36
  | .tooManyLinks => osText "Too many levels of symbolic links" 40
  | .nulByte => "file name contained an unexpected NUL byte"
  | .notText => "stream did not contain valid UTF-8"
  | .system code text => osText text code.toNat

end FileError
end Storefront
