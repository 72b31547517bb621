import Storefront.Batch.PictureFile
import Storefront.Batch.OutputPath
import Storefront.Scan
import Storefront.Report.Basic
import Storefront.Settings.Basic

/-! Batches: every listed file is normalized into the output directory, and a file that fails does
not stop the others. -/

namespace Storefront

structure Observers (m : Type → Type) where
  /-- Told of every item: how many are done, of how many, and its source. -/
  progress : Option (Nat → Nat → Path → m Unit) := none
  failure : Option (Path → String → m Unit) := none

def ScreenshotSettings.canvas (s : ScreenshotSettings) : Canvas :=
  ⟨s.target, s.background⟩

/-- Why an item fails before its file is looked at. -/
inductive ItemFault where
  | noFileName
  | collision (claimedBy : Path)
deriving DecidableEq

def ItemFault.message : ItemFault → String
  | .noFileName => "source path has no file name"
  | .collision claimedBy => "output name collides with " ++ claimedBy.displayName

abbrev Claims := List (String × Path)

def Claims.claim (claims : Claims) (src dir : Path) : Except ItemFault (Path × Claims) :=
  match outputPath? src dir with
  | none => .error .noFileName
  | some output =>
    match claims.lookup (collisionKey output) with
    | some first => .error (.collision first)
    | none => .ok (output, (collisionKey output, src) :: claims)

inductive RunError where
  | scan (dir : Path) (e : ScanError)
  | outputDir (dir : Path) (e : FileError)
deriving DecidableEq

def RunError.message : RunError → String
  | .scan dir e => "failed to scan " ++ dir.text ++ ": " ++ e.message
  | .outputDir dir e => "failed to create output directory " ++ dir.text ++ ": " ++ e.message

section

variable [Codecs] {m : Type → Type} [Monad m]

def normalizeItem (host : Host m) (canvas : Canvas) (src output : Path) : m ItemOutcome := do
  host.log (.of .info .batch ("Processing: " ++ src.displayName))
  match ← normalizeFile host canvas src output with
  | .error e => return .failed src e.message
  | .ok n =>
    host.log (.of .debug .batch ("Original size: " ++ n.sourceSize.display))
    if n.flattenedAlpha then
      host.log (.of .debug .batch ("Flattened alpha channel onto " ++ canvas.background.display))
    host.log (.of .info .batch
      ("Saved " ++ output.text ++ " (" ++ canvas.target.display ++ ", 24-bit RGB)"))
    return .normalized src output n.sourceSize n.placement n.flattenedAlpha

def reportFailure (host : Host m) (observers : Observers m) (outcome : ItemOutcome) : m Unit := do
  match outcome.failure? with
  | none => return ()
  | some (source, cause) =>
    host.log (.of .warn .batch ("Failed to process " ++ source.displayName ++ ": " ++ cause))
    match observers.failure with
    | some tell => tell source cause
    | none => return ()

def normalizeItems (host : Host m) (observers : Observers m) (settings : ScreenshotSettings)
    (total : Nat) : List Path → Nat → Claims → m (List ItemOutcome)
  | [], _, _ => return []
  | src :: files, done, claims => do
    let (outcome, claims) ←
      match claims.claim src settings.outputDir with
      | .error fault => pure (ItemOutcome.failed src fault.message, claims)
      | .ok (output, claims) => do
        pure (← normalizeItem host settings.canvas src output, claims)
    reportFailure host observers outcome
    match observers.progress with
    | some tell => tell (done + 1) total src
    | none => pure ()
    return outcome :: (← normalizeItems host observers settings total files (done + 1) claims)

def normalizeBatch (host : Host m) (observers : Observers m) (settings : ScreenshotSettings)
    (files : List Path) : m BatchReport := do
  let startedAt ← host.now
  let outcomes ← normalizeItems host observers settings files.length files 0 []
  return ⟨outcomes, startedAt, ← host.now⟩

/-- Lists the images of the input directory, creates the output directory, and normalizes them.
The output directory may lie in the input directory, so it is created last. -/
def runScreenshots (host : Host m) (observers : Observers m) (settings : ScreenshotSettings) :
    m (Except RunError BatchReport) := do
  match ← listImages host settings.inputDir settings.extensions with
  | .error e => return .error (.scan settings.inputDir e)
  | .ok files =>
    host.log (.of .info .batch ("Found " ++ files.length.repr ++ " screenshots to process"))
    match ← host.createDirs settings.outputDir with
    | .error e => return .error (.outputDir settings.outputDir e)
    | .ok () => return .ok (← normalizeBatch host observers settings files)

end
end Storefront
