/-! Paths as texts, and the names in them. -/

namespace Storefront

structure Path where
  text : String
deriving DecidableEq, Inhabited

namespace Path

inductive Component where
  | root
  | here
  | up
  | name (n : String)
deriving DecidableEq

def pieces : List Char → List (List Char)
  | [] => [[]]
  | c :: s =>
    if c = '/' then [] :: pieces s
    else match pieces s with
      | [] => [[c]]
      | p :: ps => (c :: p) :: ps

def component? (piece : List Char) : Option Component :=
  if piece = [] ∨ piece = ['.'] then none
  else if piece = ['.', '.'] then some .up
  else some (.name (String.ofList piece))

def isAbsolute (p : Path) : Bool :=
  p.text.toList.head? == some '/'

/-- What the path walks through. Empty pieces and single dots say nothing, save for a dot that
opens a relative path. -/
def components (p : Path) : List Component :=
  let ps := pieces p.text.toList
  let start : List Component :=
    if p.isAbsolute then [.root] else if ps.head? = some ['.'] then [.here] else []
  start ++ ps.filterMap component?

def fileName? (p : Path) : Option String :=
  match p.components.getLast? with
  | some (.name n) => some n
  | _ => none

def splitLastDot (name : List Char) : Option (List Char × List Char) :=
  match name.reverse.dropWhile (· ≠ '.') with
  | [] => none
  | _ :: before => some (before.reverse, (name.reverse.takeWhile (· ≠ '.')).reverse)

/-- The name up to its last dot; a dot that opens the name does not count. -/
def stemOf (name : String) : String :=
  match splitLastDot name.toList with
  | some (c :: before, _) => String.ofList (c :: before)
  | _ => name

def extensionOf? (name : String) : Option String :=
  match splitLastDot name.toList with
  | some (_ :: _, after) => some (String.ofList after)
  | _ => none

def stem? (p : Path) : Option String :=
  p.fileName?.map stemOf

def extension? (p : Path) : Option String :=
  p.fileName?.bind extensionOf?

def glue : List (List Char) → List Char
  | [] => []
  | [p] => p
  | p :: ps => p ++ '/' :: glue ps

def dropQuietEnd (ps : List (List Char)) : List (List Char) :=
  (ps.reverse.dropWhile fun p => (component? p).isNone).reverse

/-- The path without its last component. The first piece stays: it is the root of an absolute
path, and a component of a relative one. -/
def parent? (p : Path) : Option Path :=
  match pieces p.text.toList with
  | [] => none
  | first :: rest =>
    match dropQuietEnd rest with
    | [] => if first = [] then none else some ⟨""⟩
    | rest@(_ :: _) =>
      match dropQuietEnd rest.dropLast with
      | [] => some ⟨if first = [] then "/" else String.ofList first⟩
      | above => some ⟨String.ofList (glue (first :: above))⟩

def body (p : Path) : List Char :=
  match pieces p.text.toList with
  | [] => []
  | first :: rest => glue (first :: dropQuietEnd rest)

/-- The path with its last name cut off after the stem and the extension put there. A path that
ends in no name stays. -/
def setExtension (p : Path) (extension : String) : Path :=
  match p.fileName? with
  | none => p
  | some name =>
    -- The name stands at the end of the body.
    let cut := name.toList.length - (stemOf name).toList.length
    let kept := p.body.take (p.body.length - cut)
    ⟨String.ofList (if extension = "" then kept else kept ++ '.' :: extension.toList)⟩

/-- `rest` below `dir`. An absolute `rest` stands alone. -/
def join (dir : Path) (rest : String) : Path :=
  if rest.toList.head? = some '/' then ⟨rest⟩
  else if dir.text = "" ∨ dir.text.toList.getLast? = some '/' then ⟨dir.text ++ rest⟩
  else ⟨dir.text ++ "/" ++ rest⟩

def displayName (p : Path) : String :=
  p.fileName?.getD p.text

end Path
end Storefront
