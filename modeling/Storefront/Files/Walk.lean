import Storefront.Files.Tree
import Storefront.Path

/-! Where a path leads in a tree. -/

namespace Storefront

inductive Place where
  | entry (l : Location)
  | vacant (dir : Location) (name : String)
deriving DecidableEq

namespace FileTree

inductive Purpose where
  | follow
  | keep
  /-- A file is written there; a link is followed, and a slash after a name asks for a directory. -/
  | write
deriving DecidableEq

inductive Reach where
  | place (p : Place)
  | link (dir : Location) (target : String) (rest : List String)
  | fault (e : FileError)

def maxName : Nat := 255

def maxPath : Nat := 4095

def maxLinks : Nat := 40

/-- Walks from a directory until the pieces end or a link has to be followed. An empty piece stands
for a slash at the end. -/
def walk (t : FileTree) (purpose : Purpose) (cur : Location) : List String → Reach
  | [] => .place (.entry cur)
  | piece :: rest =>
    if piece = "." ∨ piece = "" then t.walk purpose cur rest
    else if piece = ".." then t.walk purpose cur.tail rest
    else if purpose = .write ∧ rest = [""] then .fault .isDirectory
    else if maxName < piece.utf8ByteSize then .fault .nameTooLong
    else match t.node? (piece :: cur) with
      | none => if rest = [] then .place (.vacant cur piece) else .fault .notFound
      | some .directory => t.walk purpose (piece :: cur) rest
      | some (.file _) =>
        if rest = [] then .place (.entry (piece :: cur)) else .fault .notDirectory
      | some (.link target) =>
        if rest = [] ∧ purpose = .keep then .place (.entry (piece :: cur))
        else .link cur target rest

def steps (text : String) : List String :=
  ((Path.pieces text.toList).filter (· ≠ [])).map String.ofList

def endsInSlash (text : String) : Bool :=
  text.toList.getLast? == some '/'

/-- The steps of a link's target; after a slash at the end comes the directory itself. -/
def targetSteps (purpose : Purpose) (target : String) : List String :=
  steps target ++
    if endsInSlash target then [if purpose = .write then "" else "."] else []

/-- The steps of a path. Slashes at its end are left out, save for writing. -/
def pathSteps (purpose : Purpose) (text : String) : List String :=
  steps text ++ if purpose = .write ∧ endsInSlash text then [""] else []

def start (cur : Location) (text : String) : Location :=
  if text.toList.head? = some '/' then [] else cur

def resolve (t : FileTree) (purpose : Purpose) :
    Nat → Location → List String → Except FileError Place
  | links, cur, pieces =>
    match t.walk purpose cur pieces with
    | .place p => .ok p
    | .fault e => .error e
    | .link dir target rest =>
      match links with
      | 0 => .error .tooManyLinks
      | links + 1 =>
        if target = "" then .error .notFound
        else t.resolve purpose links (start dir target) (targetSteps purpose target ++ rest)

def locate (t : FileTree) (purpose : Purpose) (p : Path) : Except FileError Place :=
  if p.text = "" then .error .notFound
  else if p.text.toList.contains '\x00' then .error .nulByte
  else if maxPath < p.text.utf8ByteSize then .error .nameTooLong
  else t.resolve purpose maxLinks (start t.workDir p.text) (pathSteps purpose p.text)

/-- The entry that a path leads to, links followed. A slash at the end asks for a directory. -/
def lookup (t : FileTree) (p : Path) : Except FileError (Location × Node) := do
  match ← t.locate .follow p with
  | .vacant _ _ => .error .notFound
  | .entry l =>
    match t.node? l with
    | none => .error .notFound
    | some (.file c) =>
      if endsInSlash p.text then .error .notDirectory else .ok (l, .file c)
    | some n => .ok (l, n)

end FileTree
end Storefront
