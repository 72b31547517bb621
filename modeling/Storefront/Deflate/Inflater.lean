import Storefront.Deflate.Alphabet
import Storefront.Deflate.Intake

/-! Reading a compressed stream that comes in pieces. A call reads on for as long as the stream and
the room for its content allow, and leaves off between two symbols. -/

namespace Storefront.Deflate

inductive Phase where
  | header
  | block
  /-- The lengths of the length code, so many of them, for codes of so many literals and
  distances. -/
  | smallLengths (literals distances small : Nat)
  /-- The lengths of both codes, the latest first, and how many are still to come. -/
  | lengths (code : Code) (literals left : Nat) (found : List Nat)
  | symbols (codes : BlockCodes)
  | stored (left : Nat)
  | trailer
  | done

/-- A stream as far as it was read: `isLast` says that no block follows this one, and `given` is how
much of the content there was room for. The part of a match without room stands behind that. -/
structure Inflater where
  phase : Phase
  isLast : Bool
  intake : Intake
  out : Array UInt8
  given : Nat

namespace Inflater

def start : Inflater := ⟨.header, false, .empty, #[], 0⟩

def isDone (s : Inflater) : Bool :=
  match s.phase with
  | .done => true
  | _ => false

inductive Step where
  | moved (s : Inflater)
  | paused (s : Inflater)

abbrev Result := Except DeflateError Step

def pause (s : Inflater) : Result := .ok (.paused s)

def moveTo (s : Inflater) (phase : Phase) (intake : Intake) : Result :=
  .ok (.moved { s with phase := phase, intake := intake })

def afterBlock (isLast : Bool) : Phase :=
  if isLast then .trailer else .block

/-- A header of two bytes that names this method, a window of at most 32 KiB and no dictionary. -/
def isHeader (method flags : Nat) : Bool :=
  method % 16 == 8 && method / 16 ≤ 7 && flags / 32 % 2 == 0 && (256 * method + flags) % 31 == 0

def readHeader (s : Inflater) (b : Intake) : Result :=
  if b.count < 16 then s.pause
  else if isHeader (b.peek 0 8) (b.peek 8 8) then s.moveTo .block (b.drop 16)
  else .error .badHeader

def readStoredStart (s : Inflater) (b : Intake) : Result :=
  let skip := 3 + b.slack 3
  if b.count < skip + 32 then s.pause
  else
    let n := b.peek skip 16
    if n + b.peek (skip + 16) 16 = 65535 then s.moveTo (.stored n) (b.drop (skip + 32))
    else .error .invalidStoredLength

def readCounts (s : Inflater) (b : Intake) : Result :=
  if b.count < 17 then s.pause
  else
    let literals := b.peek 3 5 + 257
    let distances := b.peek 8 5 + 1
    if 286 < literals then .error .invalidLiteralCount
    else if 30 < distances then .error .invalidDistanceCount
    else s.moveTo (.smallLengths literals distances (b.peek 13 4 + 4)) (b.drop 17)

/-- A block begins once there are as many bits as an empty one has. An empty one with the codes of
blocks that bring none, and not the last, is passed over. -/
def readBlock (s : Inflater) (b : Intake) : Result :=
  if b.count < 10 then s.pause
  else
    let s := { s with isLast := b.peek 0 1 == 1 }
    match b.peek 1 2 with
    | 0 => s.readStoredStart b
    | 1 =>
      if b.peek 0 10 = 2 then { s with intake := b.drop 10 }.pause
      else s.moveTo (.symbols .fixed) (b.drop 3)
    | 2 => s.readCounts b
    | _ => .error .invalidBlockType

def smallNumbers : Nat → Intake → List Nat × Intake
  | 0, b => ([], b)
  | n + 1, b =>
    let b := b.fill
    let rest := smallNumbers n (b.drop 3)
    (b.peek 0 3 :: rest.1, rest.2)

def readSmallLengths (s : Inflater) (literals distances small : Nat) (b : Intake) : Result :=
  if b.size < 3 * small then s.pause
  else
    let (numbers, b) := smallNumbers small b
    let code := smallCode numbers
    if code.isComplete then s.moveTo (.lengths code literals (literals + distances) []) b
    else .error .badLengthTree

/-- Code lengths, `left` more of them. A length is read once there are as many bits as the longest
code can have. -/
def readLengths (s : Inflater) (code : Code) (literals : Nat) :
    Nat → Nat → List Nat → Intake → Result
  | 0, _, _, _ => s.pause
  | fuel + 1, left, found, b =>
    if left = 0 then
      let lengths := found.reverse
      match BlockCodes.ofLengths (lengths.take literals) (lengths.drop literals) with
      | .error e => .error e
      | .ok codes => s.moveTo (.symbols codes) b
    else
      let b := b.fill
      let wait : Result := { s with phase := .lengths code literals left found, intake := b }.pause
      match code.find? b.bits with
      | none => wait
      | some hit =>
        let (value, extra, least) := repetition hit.symbol found.head?
        if b.count < max 7 (hit.length + extra) then wait
        else match value with
          | none => .error .invalidLengthRepeat
          | some v =>
            let n := least + b.peek hit.length extra
            if left < n then .error .invalidLengthRepeat
            else readLengths s code literals fuel (left - n) (List.replicate n v ++ found)
              (b.drop (hit.length + extra))

/-- The bits after which it is known that no distance code begins with them. -/
def distanceWindow : Nat := 10

def copyBack (distance : Nat) : Nat → Array UInt8 → Array UInt8
  | 0, out => out
  | n + 1, out => copyBack distance n (out.push (out.getD (out.size - distance) 0))

structure Match where
  distance : Nat
  length : Nat
  bits : Nat

/-- A match whose length symbol has `skip` bits; `none` when more of its bits are to come. Long
distance codes are waited for like those that there are not. -/
def match? (distances : Code) (length : Nat × Nat) (skip : Nat) (b : Intake) :
    Except DeflateError (Option Match) :=
  let after := skip + length.2
  let isKnown := after + distanceWindow ≤ b.count
  let unknown := if isKnown then .error .invalidDistanceCode else .ok none
  match distances.find? (b.bits >>> after) with
  | none => unknown
  | some hit =>
    match distanceBases[hit.symbol]? with
    | none => unknown
    | some (least, extra) =>
      let bits := after + hit.length + extra
      if b.count < bits || (distanceWindow ≤ hit.length && !isKnown) then .ok none
      else .ok (some
        { distance := least + b.peek (after + hit.length) extra
          length := length.1 + b.peek skip length.2
          bits := bits })

/-- The second of two literals that are read at once: they have at most twelve bits together, and
the second of them two at least. -/
def second? (codes : BlockCodes) (first : Code.Hit) (b : Intake) : Option Code.Hit :=
  if codes.paired then
    (codes.literals.find? (b.bits >>> first.length)).filter fun hit =>
      hit.symbol < endOfBlock && 2 ≤ hit.length && first.length + hit.length ≤ 12
  else none

structure Passage where
  isEnded : Bool
  out : Array UInt8
  intake : Intake

/-- The symbols of a block up to its end; once `limit` bytes are written only the end is read.
Every symbol takes a bit, so `fuel` of more than the bits that are left does not run out. -/
def readSymbols (limit : Nat) (codes : BlockCodes) :
    Nat → Array UInt8 → Intake → Except DeflateError Passage
  | 0, out, b => .ok ⟨false, out, b⟩
  | fuel + 1, out, b =>
    let b := b.fill
    match codes.literals.find? b.bits with
    | none => .ok ⟨false, out, b⟩
    | some hit =>
      if limit ≤ out.size && (limit < out.size || hit.symbol ≠ endOfBlock) then
        .ok ⟨false, out, b⟩
      else if hit.symbol < endOfBlock then
        match second? codes hit b with
        | some next =>
          let bits := hit.length + next.length
          if b.count < bits then .ok ⟨false, out, b⟩
          else readSymbols limit codes fuel
            ((out.push hit.symbol.toUInt8).push next.symbol.toUInt8) (b.drop bits)
        | none =>
          if b.count < hit.length then .ok ⟨false, out, b⟩
          else readSymbols limit codes fuel (out.push hit.symbol.toUInt8) (b.drop hit.length)
      else
        match if hit.symbol = endOfBlock then none else lengthBases[hit.symbol - 257]? with
        | none =>
          if b.count < hit.length then .ok ⟨false, out, b⟩
          else .ok ⟨true, out, b.drop hit.length⟩
        | some length =>
          match match? codes.distances length hit.length b with
          | .error e => .error e
          | .ok none => .ok ⟨false, out, b⟩
          | .ok (some m) =>
            if out.size < m.distance then .error .distanceTooFar
            else
              let out := copyBack m.distance m.length out
              if limit < out.size then .ok ⟨false, out, b.drop m.bits⟩
              else readSymbols limit codes fuel out (b.drop m.bits)

def moveBytes : Nat → Array UInt8 → Intake → Nat × Array UInt8 × Intake
  | 0, out, b => (0, out, b)
  | n + 1, out, b =>
    match b.next? with
    | none => (n + 1, out, b)
    | some (c, b) => moveBytes n (out.push c) b

/-- The check sum, which is not looked at. -/
def readTrailer (s : Inflater) (b : Intake) : Result :=
  let skip := b.slack 0
  if b.count < skip + 32 then s.pause else s.moveTo .done (b.drop (skip + 32))

def loaded (s : Inflater) : Inflater := { s with intake := s.intake.fill }

def step (limit : Nat) : Inflater → Result
  | ⟨.symbols codes, isLast, b, out, given⟩ =>
    match readSymbols limit codes (b.size + 1) out b with
    | .error e => .error e
    | .ok ⟨true, out, b⟩ => .ok (.moved ⟨afterBlock isLast, isLast, b, out, given⟩)
    | .ok ⟨false, out, b⟩ => .ok (.paused ⟨.symbols codes, isLast, b, out, given⟩)
  | ⟨.stored left, isLast, b, out, given⟩ =>
    let n := min left (limit - out.size)
    match moveBytes n out b with
    | (short, out, b) =>
      match left - (n - short) with
      | 0 => .ok (.moved ⟨afterBlock isLast, isLast, b, out, given⟩)
      | left => .ok (.paused ⟨.stored left, isLast, b, out, given⟩)
  | s =>
    let s := s.loaded
    match s.phase with
    | .header => s.readHeader s.intake
    | .block => s.readBlock s.intake
    | .smallLengths literals distances small =>
      s.readSmallLengths literals distances small s.intake
    | .lengths code literals left found =>
      s.readLengths code literals (left + 1) left found s.intake
    | .trailer => s.readTrailer s.intake
    | .done | .symbols _ | .stored _ => s.pause

/-- Steps until one leads no further. All but the bytes of a stored block take a bit, and its start
takes more than one, so `fuel` of more than the bits that are left does not run out. -/
def advance (limit : Nat) : Nat → Inflater → Except DeflateError Inflater
  | 0, s => .ok s
  | fuel + 1, s =>
    match s.step limit with
    | .error e => .error e
    | .ok (.paused s) => .ok s
    | .ok (.moved s) => advance limit fuel s

def read (limit : Nat) (s : Inflater) : Except DeflateError Inflater :=
  let fuel := if limit < s.out.size then 0 else s.intake.size + 2
  (s.advance limit fuel).map fun s => { s with given := min limit s.out.size }

/-- Reads on at the end of the stream. More of it is missed unless it is done or the room is
full. -/
def readEnd (limit : Nat) (s : Inflater) : Except DeflateError Inflater := do
  let s ← s.read limit
  if s.isDone || s.given = limit then return s
  throw .insufficientInput

def push (s : Inflater) (piece : List UInt8) : Inflater :=
  { s with intake := { s.intake with rest := piece } }

def isDrained (s : Inflater) : Bool :=
  s.intake.rest.isEmpty

end Inflater
end Storefront.Deflate
