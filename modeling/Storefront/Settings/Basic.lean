import Storefront.Color
import Storefront.Geometry.Dimensions
import Storefront.Path
import Storefront.Text.Blank

/-! What the tools work on and what they make. -/

namespace Storefront

structure ScreenshotSettings where
  inputDir : Path
  outputDir : Path
  targetWidth : UInt32
  targetHeight : UInt32
  background : Color
  extensions : List String
deriving DecidableEq

namespace ScreenshotSettings

def target (s : ScreenshotSettings) : Dimensions :=
  ⟨s.targetWidth, s.targetHeight⟩

def default : ScreenshotSettings where
  inputDir := ⟨"screenshots"⟩
  outputDir := ⟨"screenshots/store_ready"⟩
  targetWidth := 1280
  targetHeight := 800
  background := Color.white
  extensions := ["png"]

end ScreenshotSettings

structure IconSettings where
  outputDir : Path
  sizes : List UInt32
  filePrefix : String
deriving DecidableEq

namespace IconSettings

def fileName (s : IconSettings) (size : UInt32) : String :=
  s.filePrefix ++ size.toNat.repr ++ ".png"

def default : IconSettings where
  outputDir := ⟨"assets"⟩
  sizes := [16, 32, 48, 128]
  filePrefix := "icon"

end IconSettings

structure Settings where
  screenshots : ScreenshotSettings
  icons : IconSettings
deriving DecidableEq

namespace Settings

def default : Settings := ⟨ScreenshotSettings.default, IconSettings.default⟩

inductive Invalid where
  | emptyTarget (target : Dimensions)
  | noExtension
  | zeroIcon
deriving DecidableEq

def Invalid.message : Invalid → String
  | .emptyTarget target => "target size " ++ target.display ++ " has a zero side"
  | .noExtension => "no screenshot extensions configured"
  | .zeroIcon => "icon sizes must be positive"

def isBlankText (s : String) : Bool :=
  (trim s.toList).isEmpty

def validate (s : Settings) : Except Invalid Unit :=
  if s.screenshots.target.isEmpty then .error (.emptyTarget s.screenshots.target)
  else if s.screenshots.extensions.all isBlankText then .error .noExtension
  else if s.icons.sizes.contains 0 then .error .zeroIcon
  else .ok ()

end Settings
end Storefront
