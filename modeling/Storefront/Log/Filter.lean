import Storefront.Log.Directive

/-! Which log lines are shown. -/

namespace Storefront.Log

namespace Directive

def isGeneral (d : Directive) : Bool :=
  d.span.isNone && d.field.all (·.value.isNone)

def matchesTarget (d : Directive) (target : String) : Bool :=
  match d.target with
  | none => true
  | some t => t.toList.isPrefixOf target.toList

def matchesField (d : Directive) (r : Record) : Bool :=
  d.field.all fun f => r.fieldNames.contains f.name

def applies (d : Directive) (r : Record) : Bool :=
  d.isGeneral && d.matchesTarget r.origin.target && d.matchesField r

/-- A longer target is more specific. -/
def weight (d : Directive) : Nat :=
  match d.target with
  | none => 0
  | some t => t.utf8ByteSize + 1

/-- The name of the field, by which directives with one target are ordered. -/
def fieldRank (d : Directive) : List String :=
  (d.field.map FieldTest.name).toList

def outranks (d other : Directive) : Bool :=
  other.weight < d.weight || (other.weight == d.weight && !decide (d.fieldRank < other.fieldRank))

def allows (d : Directive) (level : Level) : Bool :=
  match d.level with
  | none => false
  | some l => level.rank ≤ l.rank

end Directive

abbrev Filter := List Directive

namespace Filter

/-- The most specific of the directives that apply, the last of equals. -/
def choose (f : Filter) (r : Record) : Option Directive :=
  f.foldl (fun best d =>
    if d.applies r then
      match best with
      | none => some d
      | some b => if d.outranks b then some d else some b
    else best) none

/-- Without a directive that applies nothing is let through. -/
def allows (f : Filter) (r : Record) : Bool :=
  match f.choose r with
  | none => false
  | some d => d.allows r.level

def default : Filter :=
  ["store_assets", "engine", "resize_screenshots", "generate_icons"].map fun t =>
    ⟨some t, none, none, some .info⟩

def splitCommas : List Char → List (List Char)
  | [] => [[]]
  | c :: s =>
    if c = ',' then [] :: splitCommas s
    else match splitCommas s with
      | [] => [[c]]
      | p :: ps => (c :: p) :: ps

def parse (text : String) : Except DirectiveFault Filter :=
  ((splitCommas text.toList).filter (· ≠ [])).mapM Directive.parse

/-- The filter that a user asks for; the default one when the text is invalid, and `none` when
the text cannot even be cut into its parts. -/
def ofText (text : Option String) : Option Filter :=
  match text.map parse with
  | some (.ok f) => some f
  | some (.error .broken) => none
  | some (.error .invalid) | none => some default

end Filter
end Storefront.Log
