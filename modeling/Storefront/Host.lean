import Storefront.Files.Error
import Storefront.Log.Record
import Storefront.Path
import Storefront.Time.Timestamp

/-! What the tools need of the machine they run on. -/

namespace Storefront

inductive EntryFault where
  | file (e : FileError)
  /-- A link to the directory that holds it. -/
  | loop
deriving DecidableEq

inductive EntryKind where
  | file
  | other
  | unknown (fault : EntryFault)
deriving DecidableEq

structure DirEntry where
  name : String
  kind : EntryKind
deriving DecidableEq

structure Host (m : Type → Type) where
  read : Path → m (Except FileError ByteArray)
  write : Path → ByteArray → m (Except FileError Unit)
  createDir : Path → m (Except FileError Unit)
  isDirectory : Path → m Bool
  holds : Path → m Bool
  entries : Path → m (Except FileError (List DirEntry))
  now : m Timestamp
  log : Log.Record → m Unit
  print : String → m Unit

namespace Host

variable {m : Type → Type} [Monad m]

def settle (host : Host m) (p : Path) (e : FileError) : m (Except FileError Unit) := do
  if ← host.isDirectory p then return .ok () else return .error e

/-- Creates a directory and those above it that are missing, `depth` of them at most. What was
created before a failure stays. -/
def createDirsTo (host : Host m) : Nat → Path → m (Except FileError Unit)
  | depth, p => do
    if p.text = "" then return .ok ()
    else match ← host.createDir p with
      | .ok () => return .ok ()
      | .error .notFound =>
        match depth, p.parent? with
        | depth + 1, some above =>
          match ← createDirsTo host depth above with
          | .error e => return .error e
          | .ok () =>
            match ← host.createDir p with
            | .ok () => return .ok ()
            | .error e => host.settle p e
        | _, _ => return .error .notFound
      | .error e => host.settle p e

def createDirs (host : Host m) (p : Path) : m (Except FileError Unit) :=
  host.createDirsTo p.text.length p

end Host
end Storefront
