import Storefront.Files.Walk

/-! Reading and changing a tree by paths. -/

namespace Storefront.FileTree

def read (t : FileTree) (p : Path) : Except FileError ByteArray := do
  match ← t.lookup p with
  | (_, .file c) => .ok c
  | _ => .error .isDirectory

def isDirectory (t : FileTree) (p : Path) : Bool :=
  match t.lookup p with
  | .ok (_, .directory) => true
  | _ => false

def holds (t : FileTree) (p : Path) : Bool :=
  (t.lookup p).isOk

/-- Writes a whole file, which need not be there before; its directory must. -/
def write (t : FileTree) (p : Path) (content : ByteArray) : Except FileError FileTree := do
  match ← t.locate .write p with
  | .vacant dir name => .ok (t.put (name :: dir) (.file content))
  | .entry l =>
    match t.node? l with
    | some (.file _) => .ok (t.put l (.file content))
    | _ => .error .isDirectory

/-- Puts a new entry where there is none; a link in the last place is one. -/
def create (t : FileTree) (p : Path) (n : Node) : Except FileError FileTree := do
  match ← t.locate .keep p with
  | .entry _ => .error .alreadyExists
  | .vacant dir name => .ok (t.put (name :: dir) n)

def createDir (t : FileTree) (p : Path) : Except FileError FileTree :=
  t.create p .directory

/-- Puts a new link where there is no entry. A slash after its name asks for a directory. -/
def createLink (t : FileTree) (p : Path) (target : String) : Except FileError FileTree := do
  if target.toList.contains '\x00' then throw .nulByte
  if target = "" then throw .notFound
  if maxPath < target.utf8ByteSize then throw .nameTooLong
  let made ← t.create p (.link target)
  if endsInSlash p.text then throw .notFound
  return made

/-- Removes an entry and all below it; a link is removed itself. -/
def remove (t : FileTree) (p : Path) : Except FileError FileTree := do
  match ← t.locate .keep p with
  | .vacant _ _ => .error .notFound
  | .entry l => .ok (t.prune l)

end Storefront.FileTree
