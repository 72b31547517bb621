import Storefront.Batch.PictureFile
import Storefront.Icon.Render
import Storefront.Settings.Basic

/-! The set of icons, a file for each size. -/

namespace Storefront

inductive IconError where
  | directory (dir : Path) (e : FileError)
  | render (size : UInt32) (e : ImageError)
  | encode (size : UInt32) (e : ImageError)
  | write (path : Path) (e : FileError)
deriving DecidableEq

def IconError.message : IconError → String
  | .directory dir e => "failed to create icon directory " ++ dir.text ++ ": " ++ e.message
  | .render size e => "failed to render " ++ size.toNat.repr ++ "px icon: " ++ e.message
  | .encode size e => "failed to encode " ++ size.toNat.repr ++ "px icon: " ++ e.message
  | .write path e => "failed to write " ++ path.text ++ ": " ++ e.message

def renderIcon (size : UInt32) : Except ImageError (Raster Color) :=
  match Icon.render? size with
  | some r => .ok r
  | none => .error (.invalidDimensions ⟨size, size⟩)

section

variable {m : Type → Type} [Monad m]

def writeIcon (host : Host m) (settings : IconSettings) (size : UInt32) : m (Except IconError Path) := do
  match renderIcon size with
  | .error e => return .error (.render size e)
  | .ok icon =>
    match pngFile icon with
    | .error e => return .error (.encode size e)
    | .ok content =>
      let path := settings.outputDir.join (settings.fileName size)
      match ← host.write path content with
      | .error e => return .error (.write path e)
      | .ok () =>
        host.log (.of .debug .icons ("Wrote " ++ path.text))
        return .ok path

def writeIcons (host : Host m) (settings : IconSettings) : List UInt32 → m (Except IconError (List Path))
  | [] => return .ok []
  | size :: sizes => do
    match ← writeIcon host settings size with
    | .error e => return .error e
    | .ok path =>
      match ← writeIcons host settings sizes with
      | .error e => return .error e
      | .ok paths => return .ok (path :: paths)

def generateIcons (host : Host m) (settings : IconSettings) : m (Except IconError (List Path)) := do
  match ← host.createDirs settings.outputDir with
  | .error e => return .error (.directory settings.outputDir e)
  | .ok () => writeIcons host settings settings.sizes

end
end Storefront
