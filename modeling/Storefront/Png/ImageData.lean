import Storefront.Png.Rows

/-! The image data of a PNG file, which may be spread over many chunks. -/

namespace Storefront.Png.ImageData

def partSize : Nat := 8192

/-- Bytes that begin at `offset` in the file, cut where a part of the file ends. -/
def pieces (offset : Nat) (bytes : List UInt8) : List (List UInt8) :=
  let n := partSize - offset % partSize
  match bytes.drop n with
  | [] => [bytes]
  | c :: rest => bytes.take n :: cut partSize (c :: rest)

theorem flatten_pieces (offset : Nat) (bytes : List UInt8) :
    (pieces offset bytes).flatten = bytes := by
  simp only [pieces]
  split
  next => simp
  next h => rw [List.flatten_cons, flatten_cut, ← h, List.take_append_drop]

def readContent (p : Preface) (offset length : Nat) (bytes : List UInt8) (r : Rows) :
    Except Error Rows :=
  if bytes.isEmpty then .ok r else (pieces offset (bytes.take length)).foldlM (Rows.push p) r

/-- The data of the rows. Reads one chunk of image data after the other, the first of `length` bytes
at `offset`, until a chunk of another kind begins. Every chunk has twelve bytes at least, so as many
steps as there are bytes suffice. -/
def readChunks (p : Preface) : Nat → Nat → Nat → List UInt8 → Rows → Except Error (Array UInt8)
  | 0, _, _, _, r => .error (r.breakOff p)
  | fuel + 1, offset, length, bytes, r => do
    let r ← readContent p offset length bytes r
    match Png.readContent length Chunk.imageData bytes with
    | .error .endOfFile => throw (r.breakOff p)
    | .error e => throw e
    | .ok (_, bytes) =>
      match readStart bytes with
      | .error _ => throw (r.breakOff p)
      | .ok (next, kind, bytes) =>
        if kind = Chunk.imageData then readChunks p fuel (offset + length + 12) next bytes r
        else r.finish p

def read (p : Preface) (fuel offset length : Nat) (bytes : List UInt8) :
    Except Error (List UInt8) :=
  (readChunks p fuel offset length bytes (.start p.header)).map Array.toList

end Storefront.Png.ImageData
