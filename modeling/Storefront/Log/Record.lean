import Storefront.Text.Quoted

/-! Log lines: what is told while a tool runs. -/

namespace Storefront.Log

inductive Level where
  | error
  | warn
  | info
  | debug
  | trace
deriving DecidableEq

namespace Level

def rank : Level → Nat
  | .error => 1
  | .warn => 2
  | .info => 3
  | .debug => 4
  | .trace => 5

def column : Level → String
  | .error => "ERROR"
  | .warn => " WARN"
  | .info => " INFO"
  | .debug => "DEBUG"
  | .trace => "TRACE"

end Level

inductive Origin where
  | scan
  | batch
  | icons
  | canvas
  | screenshotTool
  | iconTool
deriving DecidableEq

def Origin.target : Origin → String
  | .scan => "store_assets::scanner"
  | .batch => "store_assets::screenshots"
  | .icons => "store_assets::icons"
  | .canvas => "engine::normalize"
  | .screenshotTool => "resize_screenshots"
  | .iconTool => "generate_icons"

structure Record where
  level : Level
  origin : Origin
  message : String
  fields : List (String × String)
deriving DecidableEq

namespace Record

def of (level : Level) (origin : Origin) (message : String) : Record :=
  ⟨level, origin, message, []⟩

def fieldNames (r : Record) : List String :=
  "message" :: r.fields.map Prod.fst

/-- Characters that a terminal could take for a command are spelled out. -/
def escape (c : Char) : List Char :=
  match c with
  | '\x07' => ['\\', 'x', '0', '7']
  | '\x08' => ['\\', 'x', '0', '8']
  | '\x0c' => ['\\', 'x', '0', 'c']
  | '\x1b' => ['\\', 'x', '1', 'b']
  | '\x7f' => ['\\', 'x', '7', 'f']
  | c => if 0x80 ≤ c.toNat ∧ c.toNat ≤ 0x9F then Quoted.codePoint c else [c]

def shownMessage (r : Record) : String :=
  String.ofList (r.message.toList.flatMap escape)

def line (r : Record) : String :=
  r.level.column ++ " " ++ r.shownMessage ++
    String.join (r.fields.map fun f => " " ++ f.1 ++ "=" ++ f.2)

end Record
end Storefront.Log
