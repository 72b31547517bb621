import Storefront.Batch.Run
import Storefront.Files.Store
import Storefront.Log.Filter

/-! A machine that is a tree of files, and remembers what was told. -/

namespace Storefront

inductive Event where
  | line (text : String)
  | progress (done total : Nat) (path : Path)
  | failure (path : Path) (cause : String)
deriving DecidableEq

structure Session where
  tree : FileTree
  clock : Timestamp
  events : List Event

namespace FileTree

def entryKind (t : FileTree) (dir : Location) (path : Path) (n : Node) : EntryKind :=
  match n with
  | .file _ => .file
  | .directory => .other
  | .link _ =>
    match t.lookup path with
    | .error e => .unknown (.file e)
    | .ok (_, .file _) => .file
    | .ok (l, _) => if l = dir then .unknown .loop else .other

def dirEntries (t : FileTree) (p : Path) : Except FileError (List DirEntry) := do
  match ← t.lookup p with
  | (l, .directory) =>
    return (t.children l).map fun c => ⟨c.1, t.entryKind l (p.join c.1) c.2⟩
  | _ => .error .notDirectory

end FileTree

namespace Session

def start (tree : FileTree) : Session :=
  ⟨tree, Timestamp.epoch, []⟩

def tell (s : Session) (e : Event) : Session :=
  { s with events := s.events ++ [e] }

def change (r : Except FileError FileTree) : StateM Session (Except FileError Unit) := fun s =>
  match r with
  | .ok tree => (.ok (), { s with tree := tree })
  | .error e => (.error e, s)

def host (filter : Log.Filter) : Host (StateM Session) where
  read p := do return (← get).tree.read p
  write p content := do change ((← get).tree.write p content)
  createDir p := do change ((← get).tree.createDir p)
  isDirectory p := do return (← get).tree.isDirectory p
  holds p := do return (← get).tree.holds p
  entries p := do return (← get).tree.dirEntries p
  now := do return (← get).clock
  log r := modify fun s => if filter.allows r then s.tell (.line r.line) else s
  print text := modify fun s => s.tell (.line text)

def observers : Observers (StateM Session) where
  progress := some fun done total path => modify (·.tell (.progress done total path))
  failure := some fun path cause => modify (·.tell (.failure path cause))

end Session
end Storefront
