import Storefront.Png.Filter
import Storefront.Png.Pass

/-! Samples from the rows of image data. -/

namespace Storefront.Png

/-- The values of `bits` bits each in a byte, the high ones first. -/
def fields (bits : Nat) (b : UInt8) : Array UInt16 :=
  Array.ofFn fun i : Fin (8 / bits) =>
    (b.toNat >>> (8 - bits * (i.val + 1)) % 1 <<< bits).toUInt16

def unpack (d : Depth) (row : Array UInt8) : Array UInt16 :=
  match d with
  | .eight => row.map UInt8.toUInt16
  | .sixteen => Array.ofFn fun i : Fin (row.size / 2) =>
    (row.getD (2 * i.val) 0).toUInt16 * 256 + (row.getD (2 * i.val + 1) 0).toUInt16
  | d => row.flatMap (fields d.bits)

def joinRows (d : Depth) (n : Nat) (rows : List (Array UInt8)) : Array UInt16 :=
  rows.foldl (fun samples row => samples ++ (unpack d row).extract 0 n) #[]

structure Layer where
  pass : Pass
  samples : Array UInt16

def readLayers (h : Header) : List Pass → List UInt8 → Except Error (List Layer)
  | [], _ => .ok []
  | p :: ps, bytes => do
    let columns := p.columns h.size
    let length := h.rowBytes columns
    let (rows, bytes) ← unfilter h.stride length (p.rows h.size) #[] bytes
    let layers ← readLayers h ps bytes
    return ⟨p, joinRows h.depth (columns * h.color.channels) rows⟩ :: layers

def sampleAt (h : Header) (layers : List Layer) (x y : Nat) (channel : Nat) : UInt16 :=
  match layers.find? fun l => l.pass.visits x y with
  | none => 0
  | some l => l.samples.getD (l.pass.index h.size x y * h.color.channels + channel) 0

end Storefront.Png
