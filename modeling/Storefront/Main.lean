import Std.Time.DateTime.Timestamp
import Storefront.Log.Filter
import Storefront.Tool

/-! The tools on the machine they are started on. -/

namespace Storefront.Machine

/-- Some operations tell the number of a fault as a negative one, and begin its text with a small
letter. -/
def systemError (code : UInt32) (text : String) : FileError :=
  .ofCode (if code < 0x80000000 then code else 0 - code) text.capitalize

def fileError : IO.Error → FileError
  | .alreadyExists _ code text | .invalidArgument _ code text | .permissionDenied _ code text
  | .resourceExhausted _ code text | .inappropriateType _ code text | .noSuchThing _ code text
  | .interrupted _ code text | .noFileOrDirectory _ code text => systemError code text
  | .otherError code text | .resourceBusy code text | .resourceVanished code text
  | .unsupportedOperation code text | .hardwareFault code text
  | .unsatisfiedConstraints code text | .illegalOperation code text | .protocolError code text
  | .timeExpired code text => systemError code text
  | .unexpectedEof => .system 5 "Input/output error"
  | .userError text => .system 5 text

def attempt {α : Type} (p : Path) (act : IO α) : IO (Except FileError α) := do
  if p.text.toList.contains '\x00' then return .error .nulByte
  else match ← act.toBaseIO with
    | .ok a => return .ok a
    | .error e => return .error (fileError e)

def fileType (p : Path) : IO (Except FileError IO.FS.FileType) :=
  attempt p do return (← (System.mkFilePath [p.text]).metadata).type

def directoryKind (dir path : Path) : IO EntryKind := do
  let here ← IO.FS.realPath dir.text
  let there ← IO.FS.realPath path.text
  return if here == there then .unknown .loop else .other

def entryKind (dir path : Path) : IO EntryKind := do
  match ← fileType path with
  | .error e => return .unknown (.file e)
  | .ok .file => return .file
  | .ok .dir => directoryKind dir path
  | .ok _ => return .other

def dirEntry (dir : Path) (name : String) : IO DirEntry := do
  return ⟨name, ← entryKind dir (dir.join name)⟩

def dirEntries (dir : Path) : IO (Except FileError (List DirEntry)) :=
  attempt dir do
    let entries ← (System.mkFilePath [dir.text]).readDir
    entries.toList.mapM fun e => dirEntry dir e.fileName

/-- The clock's time, or the beginning of 1970 where it is out of all bounds. -/
def now : IO Timestamp := do
  let t := (← Std.Time.Timestamp.now).toNanosecondsSinceUnixEpoch.val
  return (Timestamp.ofUnix? (t / 1000000000) (t % 1000000000).toNat).getD Timestamp.epoch

def log (filter : Log.Filter) (r : Log.Record) : IO Unit := do
  if filter.allows r then IO.println ((← now).logDisplay ++ " " ++ r.line)

def host (filter : Log.Filter) : Host IO where
  read p := attempt p (IO.FS.readBinFile p.text)
  write p content := attempt p (IO.FS.writeBinFile p.text content)
  createDir p := attempt p (IO.FS.createDir p.text)
  isDirectory p := do return (← fileType p) matches .ok .dir
  holds p := do return (← fileType p).isOk
  entries := dirEntries
  now := now
  log := log filter
  print := IO.println

def filterVariable : String := "RUST_LOG"

def usage : String :=
  "usage: storefront " ++ "|".intercalate ([Tool.screenshots, Tool.icons].map Tool.name)

end Storefront.Machine

open Storefront in
def main (args : List String) : IO UInt32 := do
  match args.head?.bind Tool.ofName? with
  | none =>
    IO.eprintln Machine.usage
    return 2
  | some tool =>
    let exit ← tool.start Machine.host (← IO.getEnv Machine.filterVariable)
    return exit.code.toUInt32
