import Storefront.Image.Opening

/-! The headers of WebP files. -/

namespace Storefront.Opening.WebP

inductive Fault where
  | chunk (kind : List UInt8)
  | signature (found : List UInt8)
  | lossy (found : List UInt8)
  | sizes
  | lossless (found : Nat)
deriving DecidableEq

def Fault.text : Fault → String
  | chunk kind => "Invalid Chunk header: " ++ hexList kind
  | signature found => "Invalid WebP signature: " ++ hexList found
  | lossy found => "Invalid Vp8 magic: " ++ hexList found
  | sizes => "Image sizes inconsistent"
  | lossless found => "Invalid lossless signature: " ++ String.ofList (Nat.toDigits 16 found)

def container : List UInt8 := [82, 73, 70, 70]
def webP : List UInt8 := [87, 69, 66, 80]
def lossy : List UInt8 := [86, 80, 56, 32]
def lossless : List UInt8 := [86, 80, 56, 76]
def extended : List UInt8 := [86, 80, 56, 88]

def lossyStart : Opening Fault Unit := do
  if (← low 3) % 2 = 1 then stop (.feature "Non-keyframe frames")
  let found ← take 3
  check (found = [0x9D, 0x01, 0x2A]) (.lossy found)
  let width := (← low 2) % 16384
  let height := (← low 2) % 16384
  check (0 < width && 0 < height) .sizes

def opening : Opening Fault Unit := do
  let kind ← take 4
  skip 4
  check (kind = container) (.chunk container)
  let found ← take 4
  check (found = webP) (.signature found)
  let kind ← take 4
  skip 4
  if kind = lossy then lossyStart
  else if kind = lossless then
    let found ← byte
    check (found = 0x2F) (.lossless found)
    skip 4
  else if kind = extended then skip 10
  else fail (.chunk kind)
  stop .cut

end Storefront.Opening.WebP
