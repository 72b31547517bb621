import Storefront.Host
import Storefront.Settings.Json

/-! Settings from a file. -/

namespace Storefront

inductive SettingsError where
  | io (e : FileError)
  | json (e : Json.Fault)
  | invalid (e : Settings.Invalid)

namespace SettingsError

def message : SettingsError → String
  | .io e => "I/O error: " ++ e.message
  | .json e => "Settings parse error: " ++ e.message
  | .invalid e => "Invalid settings: " ++ e.message

def chain (e : SettingsError) : String :=
  match e with
  | .io cause => e.message ++ ": " ++ cause.message
  | .json cause => e.message ++ ": " ++ cause.message
  | .invalid _ => e.message

end SettingsError

namespace Settings

def fileName : Path := ⟨"store-assets.json"⟩

def ofContent (content : Except FileError ByteArray) : Except SettingsError Settings := do
  match content with
  | .error e => .error (.io e)
  | .ok bytes =>
    match String.fromUTF8? bytes with
    | none => .error (.io .notText)
    | some text =>
      match Json.parse json text with
      | .error e => .error (.json e)
      | .ok settings =>
        match settings.validate with
        | .error e => .error (.invalid e)
        | .ok () => .ok settings

variable {m : Type → Type} [Monad m]

def loadFrom (host : Host m) (p : Path) : m (Except SettingsError Settings) := do
  return ofContent (← host.read p)

def load (host : Host m) : m (Except SettingsError Settings) := do
  if ← host.holds fileName then loadFrom host fileName else return .ok default

end Settings
end Storefront
