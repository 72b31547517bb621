import Storefront.Host
import Storefront.Image.Normalize

/-! One picture from its file onto its canvas and into another file. -/

namespace Storefront

def Normalized.records (n : Normalized) (p : Picture) (c : Canvas) : List Log.Record :=
  let placed : Log.Record :=
    { level := .debug
      origin := .canvas
      message := "placed image on " ++ c.target.display ++ " canvas"
      fields :=
        [("original", n.sourceSize.display), ("scaled", n.placement.scaled.display),
         ("offset_x", n.placement.offsetX.toNat.repr), ("offset_y", n.placement.offsetY.toNat.repr)] }
  if n.flattenedAlpha then
    [{ level := .debug
       origin := .canvas
       message := "flattened alpha onto " ++ c.background.display
       fields := [("color", p.modeName)] }, placed]
  else [placed]

def pngFile (r : Raster Color) : Except ImageError ByteArray :=
  (Png.encode r).mapError .encode

/-- Reads `src`, brings it onto the canvas and writes `dst`. The file is complete before `dst` is
touched. -/
def normalizeFile [Codecs] {m : Type → Type} [Monad m] (host : Host m) (canvas : Canvas)
    (src dst : Path) : m (Except ImageError Normalized) := do
  match openPicture src (← host.read src) with
  | .error e => return .error (.decode e)
  | .ok picture =>
    match picture.normalize canvas with
    | .error e => return .error e
    | .ok normalized =>
      (normalized.records picture canvas).forM host.log
      match pngFile normalized.image with
      | .error e => return .error e
      | .ok content =>
        match ← host.write dst content with
        | .error e => return .error (.io e)
        | .ok () => return .ok normalized

end Storefront
