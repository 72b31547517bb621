import Storefront.Geometry.Placement
import Storefront.Json.Record

/-! The JSON forms of sizes and placements. -/

namespace Storefront

open Json

namespace Dimensions

structure Fields where
  width : Option UInt32 := none
  height : Option UInt32 := none

def record : Record Fields Dimensions where
  name := "struct Dimensions"
  fields :=
    [.of "width" .uint32 Fields.width fun a p => { p with width := some a },
     .of "height" .uint32 Fields.height fun a p => { p with height := some a }]
  blank := {}
  finish p := return ⟨← required "width" p.width, ← required "height" p.height⟩
  lenient := false
  members d := [("width", Format.uint32.write d.width), ("height", Format.uint32.write d.height)]

def json : Format Dimensions := record.format

end Dimensions

namespace Placement

structure Fields where
  scaled : Option Dimensions := none
  offsetX : Option UInt32 := none
  offsetY : Option UInt32 := none

def record : Record Fields Placement where
  name := "struct Placement"
  fields :=
    [.of "scaled" Dimensions.json Fields.scaled fun a p => { p with scaled := some a },
     .of "offset_x" .uint32 Fields.offsetX fun a p => { p with offsetX := some a },
     .of "offset_y" .uint32 Fields.offsetY fun a p => { p with offsetY := some a }]
  blank := {}
  finish p := return ⟨← required "scaled" p.scaled, ← required "offset_x" p.offsetX,
    ← required "offset_y" p.offsetY⟩
  lenient := false
  members p := [("scaled", Dimensions.json.write p.scaled),
    ("offset_x", Format.uint32.write p.offsetX), ("offset_y", Format.uint32.write p.offsetY)]

def json : Format Placement := record.format

end Placement
end Storefront
