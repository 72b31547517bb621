import Storefront.Files.Error

/-! Trees of directories, files and links, as the set of their entries. -/

namespace Storefront

/-- The names that lead to an entry, the nearest first; the root has none. -/
abbrev Location := List String

inductive Node where
  | directory
  | file (content : ByteArray)
  | link (target : String)

structure FileTree where
  workDir : Location
  entries : List (Location × Node)

namespace FileTree

def empty : FileTree := ⟨["work"], [(["work"], .directory)]⟩

def node? (t : FileTree) (l : Location) : Option Node :=
  if l = [] then some .directory else t.entries.lookup l

def putEntry (l : Location) (n : Node) : List (Location × Node) → List (Location × Node)
  | [] => [(l, n)]
  | e :: es => if e.1 = l then (l, n) :: es else e :: putEntry l n es

def put (t : FileTree) (l : Location) (n : Node) : FileTree :=
  { t with entries := putEntry l n t.entries }

def prune (t : FileTree) (l : Location) : FileTree :=
  { t with entries := t.entries.filter fun e => !l.isSuffixOf e.1 }

def children (t : FileTree) (l : Location) : List (String × Node) :=
  t.entries.filterMap fun e =>
    match e.1 with
    | [] => none
    | name :: dir => if dir = l then some (name, e.2) else none

theorem lookup_putEntry (l k : Location) (n : Node) (es : List (Location × Node)) :
    (putEntry l n es).lookup k = if k = l then some n else es.lookup k := by
  induction es with
  | nil => by_cases h : k = l <;> simp [putEntry, h]
  | cons e es ih =>
    obtain ⟨a, b⟩ := e
    by_cases ha : a = l
    · subst ha
      by_cases h : k = a
      · simp [putEntry, h]
      · simp [putEntry, List.lookup_cons, beq_false_of_ne h, h]
    · by_cases h : k = a
      · subst h; simp [putEntry, ha]
      · simp [putEntry, List.lookup_cons, beq_false_of_ne h, ha, ih]

@[simp] theorem node?_nil (t : FileTree) : t.node? [] = some .directory := rfl

theorem node?_put (t : FileTree) {l : Location} (hl : l ≠ []) (n : Node) (k : Location) :
    (t.put l n).node? k = if k = l then some n else t.node? k := by
  by_cases h : k = []
  · subst h; simp [node?, Ne.symm hl]
  · simp [node?, put, h, lookup_putEntry]

def sortedChildren (t : FileTree) (l : Location) : List (String × Node) :=
  (t.children l).mergeSort fun a b => a.1 ≤ b.1

/-- The paths of all entries below `l`, each directory before what it holds, to a given depth.
A directory ends in a slash and a link in an at sign. -/
def outlineFrom (t : FileTree) : Nat → Location → String → List String
  | 0, _, _ => []
  | depth + 1, l, above =>
    (t.sortedChildren l).flatMap fun c =>
      let path := above ++ c.1
      match c.2 with
      | .directory => (path ++ "/") :: t.outlineFrom depth (c.1 :: l) (path ++ "/")
      | .file _ => [path]
      | .link _ => [path ++ "@"]

def outline (t : FileTree) : List String :=
  t.outlineFrom t.entries.length t.workDir ""

end FileTree
end Storefront
