import Storefront.Batch.Run
import Storefront.Icon.Set
import Storefront.Log.Filter
import Storefront.Settings.Load

/-! The two tools: settings, work, and what the user is told. -/

namespace Storefront

inductive Tool where
  | screenshots
  | icons
deriving DecidableEq

namespace Tool

def name : Tool → String
  | .screenshots => "resize-screenshots"
  | .icons => "generate-icons"

def ofName? (s : String) : Option Tool :=
  [screenshots, icons].find? (·.name == s)

inductive Error where
  | settings (e : SettingsError)
  | run (e : RunError)
  | icons (e : IconError)

def Error.message : Error → String
  | .settings e => "failed to load settings: " ++ e.chain
  | .run e => e.message
  | .icons e => e.message

def summary (settings : ScreenshotSettings) (report : BatchReport) : List String :=
  let elapsed := report.finishedAt.milliseconds - report.startedAt.milliseconds
  ["",
   "Processing complete in " ++ toString elapsed ++ " ms",
   "Output folder: " ++ settings.outputDir.text,
   "Processed " ++ report.total.repr ++ " screenshots (" ++ report.succeeded.repr ++ " saved, " ++
     report.failed.repr ++ " failed)"] ++
  (report.failures.map fun f => "  failed: " ++ f.1.text ++ " (" ++ f.2 ++ ")") ++
  ["Target size: " ++ settings.target.display ++ " pixels",
   "Format: 24-bit PNG (no alpha)"]

def iconSummary (paths : List Path) : List String :=
  (paths.map fun p => "Created " ++ p.text) ++ ["All icons created successfully!"]

inductive Exit where
  | success
  | failure
  /-- The tool could not start. -/
  | crash
deriving DecidableEq

def Exit.code : Exit → UInt8
  | .success => 0
  | .failure => 1
  | .crash => 101

variable [Codecs] {m : Type → Type} [Monad m]

def runScreenshotTool (host : Host m) : m (Except Error Unit) := do
  match ← Settings.load host with
  | .error e => return .error (.settings e)
  | .ok settings =>
    match ← runScreenshots host {} settings.screenshots with
    | .error e => return .error (.run e)
    | .ok report =>
      (summary settings.screenshots report).forM host.print
      return .ok ()

def runIconTool (host : Host m) : m (Except Error Unit) := do
  match ← Settings.load host with
  | .error e => return .error (.settings e)
  | .ok settings =>
    match ← generateIcons host settings.icons with
    | .error e => return .error (.icons e)
    | .ok paths =>
      (iconSummary paths).forM host.print
      return .ok ()

def origin : Tool → Log.Origin
  | .screenshots => .screenshotTool
  | .icons => .iconTool

/-- Runs a tool and logs what it failed of. The answer says whether it succeeded. -/
def run (host : Host m) (tool : Tool) : m Bool := do
  let result ← match tool with
    | .screenshots => runScreenshotTool host
    | .icons => runIconTool host
  match result with
  | .ok () => return true
  | .error e =>
    host.log (.of .error tool.origin e.message)
    return false

def start (host : Log.Filter → Host m) (tool : Tool) (filterText : Option String) : m Exit := do
  match Log.Filter.ofText filterText with
  | none => return .crash
  | some filter => return if ← tool.run (host filter) then .success else .failure

end Tool
end Storefront
