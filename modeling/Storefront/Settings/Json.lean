import Storefront.Json.Record
import Storefront.Settings.Basic

/-! The JSON forms of settings. What a text leaves out keeps its default. -/

namespace Storefront

open Json

namespace ScreenshotSettings

structure Fields where
  inputDir : Option Path := none
  outputDir : Option Path := none
  targetWidth : Option UInt32 := none
  targetHeight : Option UInt32 := none
  background : Option Color := none
  extensions : Option (List String) := none

def ofFields (p : Fields) : ScreenshotSettings where
  inputDir := p.inputDir.getD default.inputDir
  outputDir := p.outputDir.getD default.outputDir
  targetWidth := p.targetWidth.getD default.targetWidth
  targetHeight := p.targetHeight.getD default.targetHeight
  background := p.background.getD default.background
  extensions := p.extensions.getD default.extensions

def record : Record Fields ScreenshotSettings where
  name := "struct ScreenshotSettings"
  fields :=
    [.of "input_dir" .path Fields.inputDir fun a p => { p with inputDir := some a },
     .of "output_dir" .path Fields.outputDir fun a p => { p with outputDir := some a },
     .of "target_width" .uint32 Fields.targetWidth fun a p => { p with targetWidth := some a },
     .of "target_height" .uint32 Fields.targetHeight fun a p => { p with targetHeight := some a },
     .of "background" .color Fields.background fun a p => { p with background := some a },
     .of "extensions" (.list .string) Fields.extensions fun a p => { p with extensions := some a }]
  blank := {}
  finish p := .ok (ofFields p)
  lenient := true
  members s := [("input_dir", Format.path.write s.inputDir),
    ("output_dir", Format.path.write s.outputDir),
    ("target_width", Format.uint32.write s.targetWidth),
    ("target_height", Format.uint32.write s.targetHeight),
    ("background", Format.color.write s.background),
    ("extensions", (Format.list .string).write s.extensions)]

def json : Format ScreenshotSettings := record.format

end ScreenshotSettings

namespace IconSettings

structure Fields where
  outputDir : Option Path := none
  sizes : Option (List UInt32) := none
  filePrefix : Option String := none

def ofFields (p : Fields) : IconSettings where
  outputDir := p.outputDir.getD default.outputDir
  sizes := p.sizes.getD default.sizes
  filePrefix := p.filePrefix.getD default.filePrefix

def record : Record Fields IconSettings where
  name := "struct IconSettings"
  fields :=
    [.of "output_dir" .path Fields.outputDir fun a p => { p with outputDir := some a },
     .of "sizes" (.list .uint32) Fields.sizes fun a p => { p with sizes := some a },
     .of "file_prefix" .string Fields.filePrefix fun a p => { p with filePrefix := some a }]
  blank := {}
  finish p := .ok (ofFields p)
  lenient := true
  members s := [("output_dir", Format.path.write s.outputDir),
    ("sizes", (Format.list .uint32).write s.sizes),
    ("file_prefix", Format.string.write s.filePrefix)]

def json : Format IconSettings := record.format

end IconSettings

namespace Settings

structure Fields where
  screenshots : Option ScreenshotSettings := none
  icons : Option IconSettings := none

def ofFields (p : Fields) : Settings where
  screenshots := p.screenshots.getD default.screenshots
  icons := p.icons.getD default.icons

def record : Record Fields Settings where
  name := "struct AppSettings"
  fields :=
    [.of "screenshots" ScreenshotSettings.json Fields.screenshots fun a p =>
       { p with screenshots := some a },
     .of "icons" IconSettings.json Fields.icons fun a p => { p with icons := some a }]
  blank := {}
  finish p := .ok (ofFields p)
  lenient := true
  members s := [("screenshots", ScreenshotSettings.json.write s.screenshots),
    ("icons", IconSettings.json.write s.icons)]

def json : Format Settings := record.format

end Settings
end Storefront
