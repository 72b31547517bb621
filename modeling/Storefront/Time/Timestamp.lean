import Storefront.Text.Blank
import Storefront.Time.Date

/-! Points in time to the nanosecond, and their text. -/

namespace Storefront

/-- A point in universal time. Second 60 is a leap second. -/
structure Timestamp where
  date : Date
  hour : Nat
  minute : Nat
  second : Nat
  nanosecond : Nat
  hour_lt : hour < 24
  minute_lt : minute < 60
  second_le : second ≤ 60
  nanosecond_lt : nanosecond < 1000000000
deriving DecidableEq

namespace Timestamp

inductive ParseError where
  | invalid
  | outOfRange
  | tooShort
  | tooLong
  | impossible
deriving DecidableEq

def ParseError.message : ParseError → String
  | .invalid => "input contains invalid characters"
  | .outOfRange => "input is out of range"
  | .tooShort => "premature end of input"
  | .tooLong => "trailing input"
  | .impossible => "no possible date and time matching input"

def decimal (digits : List Char) : Nat :=
  digits.foldl (fun n c => 10 * n + (c.toNat - 48)) 0

def readDigits (width : Nat) (s : List Char) : Except ParseError (List Char × List Char) :=
  match s with
  | [] => .error .tooShort
  | _ =>
    let digits := (s.take width).takeWhile Char.isDigit
    if digits = [] then .error .invalid else .ok (digits, s.drop digits.length)

def maxNumber : Nat := 9223372036854775807

def readNumber (width : Nat) (s : List Char) : Except ParseError (Nat × List Char) := do
  let (digits, rest) ← readDigits width s
  if maxNumber < decimal digits then throw .outOfRange
  return (decimal digits, rest)

def readPart (low high : Nat) (s : List Char) : Except ParseError (Nat × List Char) := do
  let (n, rest) ← readNumber 2 (trimStart s)
  if n < low ∨ high < n then throw .outOfRange
  return (n, rest)

/-- A year of at most four digits, or of any number of digits after a sign. -/
def readYear (s : List Char) : Except ParseError (Int × List Char) := do
  let s := trimStart s
  let (year, rest) ←
    match s with
    | '-' :: s => do
      let (n, rest) ← readNumber s.length s
      pure (-(n : Int), rest)
    | '+' :: s => do
      let (n, rest) ← readNumber s.length s
      pure ((n : Int), rest)
    | s => do
      let (n, rest) ← readNumber 4 s
      pure ((n : Int), rest)
  if year < -2147483648 ∨ 2147483647 < year then throw .outOfRange
  return (year, rest)

def readMark (c : Char) (s : List Char) : Except ParseError (List Char) :=
  match trimStart s with
  | [] => .error .tooShort
  | d :: rest => if d = c then .ok rest else .error .invalid

def readSeparator : List Char → Except ParseError (List Char)
  | [] => .error .tooShort
  | c :: rest => if c = 'T' ∨ c = 't' ∨ c = ' ' then .ok rest else .error .invalid

/-- A fraction of a second, if there is one. Digits past the ninth say nothing. -/
def readFraction (s : List Char) : Except ParseError (Nat × List Char) :=
  match s with
  | '.' :: s => do
    let (digits, rest) ← readDigits 9 s
    return (decimal digits * Nat.pow 10 (9 - digits.length), rest.dropWhile Char.isDigit)
  | s => .ok (0, s)

def byteCount : List Char → Nat
  | [] => 0
  | c :: s => c.utf8Size + byteCount s

/-- Two digits of an offset; a text of fewer than two bytes is too short. -/
def readPair (s : List Char) : Except ParseError (Nat × List Char) :=
  if byteCount s < 2 then .error .tooShort
  else match s with
    | a :: b :: rest =>
      if a.isDigit ∧ b.isDigit then .ok (decimal [a, b], rest) else .error .invalid
    | _ => .error .invalid

def readSign : List Char → Except ParseError (Bool × List Char)
  | [] => .error .tooShort
  | c :: rest =>
    if c = '+' then .ok (false, rest)
    else if c = '-' ∨ c = '\u2212' then .ok (true, rest)
    else .error .invalid

def readOffset (s : List Char) : Except ParseError (Int × List Char) :=
  let s := trimStart s
  if (s.take 3).map Char.toUpper = ['U', 'T', 'C'] then .ok (0, s.drop 3)
  else if s.head? = some 'Z' ∨ s.head? = some 'z' then .ok (0, s.drop 1)
  else do
    let (west, s) ← readSign s
    let (hours, s) ← readPair s
    let (minutes, s) ← readPair (s.dropWhile fun c => c = ':' || isBlank c)
    if 59 < minutes then throw .outOfRange
    let total : Int := 60 * hours + minutes
    return (if west then -total else total, s)

def ofLocal (date : Date) (minutes : Nat) (second nanosecond : Nat) (offset : Int) :
    Except ParseError Timestamp := do
  let shifted := (minutes : Int) - offset
  let day ←
    match if shifted < 0 then date.previous? else if 1440 ≤ shifted then date.next? else some date with
    | some day => pure day
    | none => throw .impossible
  let minutes := (shifted % 1440).toNat
  if hm : minutes / 60 < 24 then
    if hs : second ≤ 60 then
      if hn : nanosecond < 1000000000 then
        return ⟨day, minutes / 60, minutes % 60, second, nanosecond, hm, Nat.mod_lt _ (by decide), hs, hn⟩
  throw .outOfRange

/-- Reads a date, a time and an offset. Parts may have fewer digits than usual, and blanks may
stand before any of them. -/
def parse (text : String) : Except ParseError Timestamp := do
  let (year, s) ← readYear text.toList
  let (month, s) ← readPart 1 12 (← readMark '-' s)
  let (day, s) ← readPart 1 31 (← readMark '-' s)
  let (hour, s) ← readPart 0 23 (← readSeparator s)
  let (minute, s) ← readPart 0 59 (← readMark ':' s)
  let (second, s) ← readPart 0 60 (← readMark ':' s)
  let (nanosecond, s) ← readFraction s
  let (offset, s) ← readOffset s
  if trimStart s ≠ [] then throw .tooLong
  match Date.of? year month day with
  | none => throw .outOfRange
  | some date =>
    if 1440 ≤ offset.natAbs then throw .outOfRange
    ofLocal date (60 * hour + minute) second nanosecond offset

def padded (width n : Nat) : List Char :=
  let digits := Nat.toDigits 10 n
  List.replicate (width - digits.length) '0' ++ digits

def yearChars (year : Int) : List Char :=
  if 0 ≤ year ∧ year ≤ 9999 then padded 4 year.toNat
  else (if year < 0 then '-' else '+') :: padded 4 year.natAbs

def fractionChars (nanosecond : Nat) : List Char :=
  if nanosecond = 0 then []
  else if nanosecond % 1000000 = 0 then '.' :: padded 3 (nanosecond / 1000000)
  else if nanosecond % 1000 = 0 then '.' :: padded 6 (nanosecond / 1000)
  else '.' :: padded 9 nanosecond

def displayChars (t : Timestamp) : List Char :=
  yearChars t.date.year ++ '-' :: padded 2 t.date.month ++ '-' :: padded 2 t.date.day ++
    'T' :: padded 2 t.hour ++ ':' :: padded 2 t.minute ++ ':' :: padded 2 t.second ++
      fractionChars t.nanosecond ++ ['Z']

def display (t : Timestamp) : String :=
  String.ofList t.displayChars

def ofUnix? (seconds : Int) (nanosecond : Nat) : Option Timestamp := do
  let date ← Date.ofUnixDays? (seconds / 86400)
  (ofLocal date ((seconds % 86400) / 60).toNat (seconds % 60).toNat nanosecond 0).toOption

def logDisplay (t : Timestamp) : String :=
  String.ofList ({ t with nanosecond := 0, nanosecond_lt := by decide }.displayChars.dropLast ++
    '.' :: padded 6 (t.nanosecond / 1000) ++ ['Z'])

def epoch : Timestamp :=
  ⟨⟨1970, 1, 1, by decide, by decide, by decide⟩, 0, 0, 0, 0, by decide, by decide, by decide, by decide⟩

/-- Whole milliseconds, counted from some point in the past. -/
def milliseconds (t : Timestamp) : Int :=
  (((t.date.number * 24 + t.hour) * 60 + t.minute) * 60 + t.second) * 1000 + t.nanosecond / 1000000

end Timestamp
end Storefront
