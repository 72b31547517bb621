import Storefront.Color
import Storefront.Decimal.Shortest
import Storefront.Time.Timestamp

/-! Reasons why a JSON text is refused. -/

namespace Storefront.Json

inductive Found where
  | null
  | boolean (b : Bool)
  | integer (n : Int)
  | float (x : Float)
  | string (s : String)
  | sequence
  | map

def Found.text : Found → String
  | .null => "null"
  | .boolean b => "boolean \x60" ++ (if b then "true" else "false") ++ "\x60"
  | .integer n => "integer \x60" ++ toString n ++ "\x60"
  | .float x => "floating point \x60" ++ Decimal.ofFloat x ++ "\x60"
  | .string s => "string " ++ Quoted.quote s
  | .sequence => "sequence"
  | .map => "map"

inductive Cause where
  | endOfList
  | endOfObject
  | endOfString
  | endOfValue
  | expectedColon
  | expectedListCommaOrEnd
  | expectedObjectCommaOrEnd
  | expectedIdent
  | expectedValue
  | invalidEscape
  | invalidNumber
  | numberOutOfRange
  | controlCharacter
  | keyMustBeString
  | loneSurrogate
  | trailingComma
  | trailingCharacters
  | endOfHexEscape
  | recursionLimit
  | invalidType (found : Found) (expected : String)
  | invalidValue (found : Found) (expected : String)
  | invalidLength (n : Nat) (expected : String)
  | unknownVariant (name : String) (expected : List String)
  | missingField (name : String)
  | duplicateField (name : String)
  | color (e : Color.ParseError)
  | timestamp (e : Timestamp.ParseError)

namespace Cause

def ticked (s : String) : String := "\x60" ++ s ++ "\x60"

def text : Cause → String
  | .endOfList => "EOF while parsing a list"
  | .endOfObject => "EOF while parsing an object"
  | .endOfString => "EOF while parsing a string"
  | .endOfValue => "EOF while parsing a value"
  | .expectedColon => "expected \x60:\x60"
  | .expectedListCommaOrEnd => "expected \x60,\x60 or \x60]\x60"
  | .expectedObjectCommaOrEnd => "expected \x60,\x60 or \x60\x7d\x60"
  | .expectedIdent => "expected ident"
  | .expectedValue => "expected value"
  | .invalidEscape => "invalid escape"
  | .invalidNumber => "invalid number"
  | .numberOutOfRange => "number out of range"
  | .controlCharacter =>
    "control character (\\u0000-\\u001F) found while parsing a string"
  | .keyMustBeString => "key must be a string"
  | .loneSurrogate => "lone leading surrogate in hex escape"
  | .trailingComma => "trailing comma"
  | .trailingCharacters => "trailing characters"
  | .endOfHexEscape => "unexpected end of hex escape"
  | .recursionLimit => "recursion limit exceeded"
  | .invalidType found expected => "invalid type: " ++ found.text ++ ", expected " ++ expected
  | .invalidValue found expected => "invalid value: " ++ found.text ++ ", expected " ++ expected
  | .invalidLength n expected => "invalid length " ++ n.repr ++ ", expected " ++ expected
  | .unknownVariant name expected =>
    "unknown variant " ++ ticked name ++ ", expected " ++ " or ".intercalate (expected.map ticked)
  | .missingField name => "missing field " ++ ticked name
  | .duplicateField name => "duplicate field " ++ ticked name
  | .color e => e.message
  | .timestamp e => e.message

end Cause

/-- A line, counted from one, and the bytes of it before a place. -/
structure Position where
  line : Nat
  column : Nat
deriving DecidableEq

structure Fault where
  cause : Cause
  position : Option Position

def Fault.message (f : Fault) : String :=
  match f.position with
  | none => f.cause.text
  | some p => f.cause.text ++ " at line " ++ p.line.repr ++ " column " ++ p.column.repr

end Storefront.Json
