import Storefront.Host
import Storefront.Text.Blank

/-! The images in a directory. -/

namespace Storefront

inductive ScanError where
  | missing (dir : Path)
  | unreadable (dir : Path) (e : FileError)
deriving DecidableEq

def ScanError.message : ScanError → String
  | .missing dir => "input directory " ++ dir.text ++ " does not exist"
  | .unreadable dir e => "failed to read " ++ dir.text ++ ": " ++ e.message

namespace Scan

def lowerAscii (s : List Char) : List Char :=
  s.map Char.toLower

def wanted (entry : String) : List Char :=
  (trim entry.toList).dropWhile (· = '.')

def selects (extensions : List String) (name : String) : Bool :=
  match Path.extensionOf? name with
  | none => false
  | some e => extensions.any fun entry => lowerAscii (wanted entry) == lowerAscii e.toList

def faultText (dir path : Path) : EntryFault → String
  | .file e => "IO error for operation on " ++ path.text ++ ": " ++ e.message
  | .loop => "File system loop found: " ++ path.text ++ " points to an ancestor " ++ dir.text

def isListed (extensions : List String) (e : DirEntry) : Bool :=
  match e.kind with
  | .file | .unknown _ => selects extensions e.name
  | .other => false

def record? (dir : Path) (extensions : List String) (e : DirEntry) : Option Log.Record :=
  match e.kind with
  | .file | .other => none
  | .unknown fault =>
    let path := dir.join e.name
    let text := faultText dir path fault
    if selects extensions e.name then
      some (.of .warn .scan ("Cannot inspect " ++ path.text ++ ": " ++ text))
    else some (.of .debug .scan ("Skipping unreadable entry: " ++ text))

def sorted (es : List DirEntry) : List DirEntry :=
  es.mergeSort fun a b => a.name ≤ b.name

def paths (dir : Path) (extensions : List String) (es : List DirEntry) : List Path :=
  ((sorted es).filter (isListed extensions)).map fun e => dir.join e.name

end Scan

def listImages {m : Type → Type} [Monad m] (host : Host m) (dir : Path) (extensions : List String) :
    m (Except ScanError (List Path)) := do
  if ← host.isDirectory dir then
    match ← host.entries dir with
    | .error e => return .error (.unreadable dir e)
    | .ok es =>
      ((Scan.sorted es).filterMap (Scan.record? dir extensions)).forM host.log
      return .ok (Scan.paths dir extensions es)
  else return .error (.missing dir)

end Storefront
