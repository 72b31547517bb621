import Storefront.Image.Opening
import Storefront.Text.Quoted

/-! The segments of JPEG files before the image data. -/

namespace Storefront.Opening.Jpeg

inductive Fault where
  | bytes (expected found : Nat)
  | start (n : Nat)
  | format (text : String)
  | quantization (text : String)
  | huffman (text : String)
  | frame (text : String)
  | scan (text : String)
  | emptySize
deriving DecidableEq

def Fault.text : Fault → String
  | bytes expected found =>
    "I/O errors Not enough bytes, expected " ++ expected.repr ++ " but found " ++ found.repr ++ "\n"
  | start n =>
    "Error parsing image. Illegal start bytes:" ++
      String.ofList ((Nat.toDigits 16 n).map Char.toUpper)
  | format text => Quoted.quote text
  | quantization text => "Error parsing DQT segment. Reason:" ++ text
  | huffman text => "Error decoding huffman values: " ++ text
  | frame text => "Error parsing SOF segment. Reason:" ++ text
  | scan text => "Error parsing SOS Segment. Reason:" ++ text
  | emptySize => "Image width or height is set to zero, cannot continue"

def segmentBytes (n : Nat) : Opening Fault (List UInt8) := fun bytes =>
  let read := bytes.take n
  if read.length < n then .error (.fault (.bytes n read.length)) else .ok (read, bytes.drop n)

def number (n : Nat) : Opening Fault Nat := bigEndian <$> segmentBytes n

def pass (n : Nat) : Opening Fault Unit := do
  set ((← get).drop n)

/-- The bytes of a segment after its length, which counts itself. -/
def length (message : Nat → String) : Opening Fault Nat := do
  let n ← number 2
  check (2 ≤ n) (.format (message n))
  return n - 2

def wholeLength (message : String) : Opening Fault Nat := do
  let n ← length fun _ => message
  check (n ≤ (← get).length) (.format message)
  return n

def quantization : Nat → Nat → Opening Fault Unit
  | 0, _ => pure ()
  | fuel + 1, left =>
    if left = 0 then pure ()
    else do
      let start ← number 1
      let precision := start / 16
      let bytes := 64 * (precision + 1)
      check (bytes + 1 ≤ left) (.quantization
        ("Invalid QT table bytes left :" ++ left.repr ++
          ". Too small to construct a valid qt table which should be " ++ (bytes + 1).repr ++
          " long"))
      check (precision ≤ 1) (.quantization
        ("Expected QT precision value of either 0 or 1, found " ++ precision.repr))
      if precision = 0 then
        let _ ← segmentBytes 64
      else (List.range 64).forM fun _ => do
        let _ ← number 2
      check (start % 16 < 4) (.quantization
        ("Too large table position for QT :" ++ (start % 16).repr ++ ", expected between 0 and 3"))
      quantization fuel (left - (bytes + 1))

def huffman : Nat → Nat → Opening Fault Unit
  | 0, _ => pure ()
  | fuel + 1, left =>
    if left ≤ 16 then check (left = 0) (.format "Bogus Huffman table definition")
    else do
      let start ← number 1
      check (start % 16 < 4) (.huffman
        ("Invalid DHT index " ++ (start % 16).repr ++ ", expected between 0 and 3"))
      check (start / 16 ≤ 1) (.huffman
        ("Invalid DHT position " ++ (start / 16).repr ++ ", should be 0 or 1"))
      let counts ← segmentBytes 16
      let n := counts.foldl (fun n b => n + b.toNat) 0
      let left := left - 17
      check (n ≤ 256) (.format "Encountered Huffman table with excessive length in DHT")
      check (n ≤ left) (.huffman
        ("Excessive Huffman table of length " ++ n.repr ++ " found when header length is " ++
          left.repr))
      let _ ← segmentBytes n
      huffman fuel (left - n)

def frame (hasFrame : Bool) : Opening Fault Unit := do
  check (!hasFrame) (.frame "Two Start of Frame Markers")
  let length ← number 2
  let precision ← number 1
  check (precision = 8) (.frame
    ("The library can only parse 8-bit images, the image has " ++ precision.repr ++
      " bits of precision"))
  let height ← number 2
  let width ← number 2
  check (0 < width && 0 < height) .emptySize
  let components ← number 1
  check (0 < components) (.frame "Number of components cannot be zero.")
  check (length = 8 + 3 * components) (.frame
    ("Length of start of frame differs from expected " ++ (8 + 3 * components).repr ++
      ",value is " ++ length.repr))
  (List.range components).forM fun _ => do
    let _ ← segmentBytes 3

def scan (hasFrame : Bool) : Opening Fault Unit := do
  let length ← number 2
  let components ← number 1
  check (length = 6 + 2 * components) (.scan
    ("Bad SOS length " ++ length.repr ++ ",corrupt jpeg"))
  check (0 < components && components < 5) (.scan
    ("Invalid number of components in start of scan " ++ components.repr ++
      ", expected in range 1..5"))
  check hasFrame (.format
    "Error decoding SOF Marker, Number of components cannot be zero.")
  stop .unread

def invalidLength (n : Nat) : String :=
  "Found a marker with invalid length:" ++ n.repr ++ "\n"

def unknownLength (n : Nat) : String :=
  "Found a marker with invalid length : " ++ n.repr

def passed : List Nat :=
  [0xD0, 0xD1, 0xD2, 0xD3, 0xD4, 0xD5, 0xD6, 0xD7, 0xD8, 0xE0, 0xED, 0xFE]

def segment (hasFrame : Bool) (marker : Nat) : Opening Fault Unit :=
  match marker with
  | 0xC0 | 0xC1 | 0xC2 => frame hasFrame
  | 0xC4 => do huffman 65536 (← length fun _ => "Invalid Huffman length in image")
  | 0xD9 => fail (.format "Premature End of image")
  | 0xDA => scan hasFrame
  | 0xDB => do
    quantization 65536 (← length fun _ => "Invalid DQT length. Length should be greater than 2")
  | 0xCC | 0xDC =>
    fail (.format ("Parsing of the following header \x60" ++
      (if marker = 0xCC then "DAC" else "DNL") ++ "\x60 is not supported, cannot continue"))
  | 0xDD => do
    check ((← number 2) = 4) (.format "Bad DRI length, Corrupt JPEG")
    let _ ← number 2
  | 0xE1 => do pass (← wholeLength "Too small app1 length")
  | 0xE2 => do pass (← wholeLength "Too small app2 segment")
  | 0xEE => do pass (← wholeLength "Too small app14 length")
  | marker => do
    pass (← length (if passed.contains marker then invalidLength else unknownLength))

/-- The next byte that is neither of ones nor of zeros, and the byte before it. -/
def afterFill : Nat → Nat → Opening Fault (Nat × Nat)
  | 0, _ => fail (.bytes 1 0)
  | fuel + 1, last => do
    let b ← number 1
    if b = 0 ∨ b = 0xFF then afterFill fuel b else return (last, b)

/-- Segments up to the image data. A byte of ones before a byte makes that a marker. -/
def segments : Nat → Nat → Bool → Opening Fault Unit
  | 0, _, _ => fail (.bytes 1 0)
  | fuel + 1, last, hasFrame => do
    let b ← number 1
    let (last, b) ←
      if last = 0xFF ∧ (b = 0 ∨ b = 0xFF) then afterFill (fuel + 1) b else pure (last, b)
    if last ≠ 0xFF then segments fuel b hasFrame
    else
      segment hasFrame b
      segments fuel b (hasFrame || 0xC0 ≤ b && b ≤ 0xC2)

def opening : Opening Fault Unit := do
  let n ← number 2
  check (n = 0xFFD8) (.start n)
  segments ((← get).length + 1) 0 false

end Storefront.Opening.Jpeg
