import Storefront.Geometry.Json
import Storefront.Report.Basic

/-! The JSON forms of outcomes and reports. An outcome is told by its status, which may stand
anywhere in its object, so the other members are kept until it is known. -/

namespace Storefront

open Json Reader

namespace ItemOutcome

inductive Status where
  | normalized
  | failed
deriving DecidableEq

def Status.text : Status → String
  | .normalized => "normalized"
  | .failed => "failed"

def statusKey : String := "status"

def statusOf (s : String) : Except Cause Status :=
  if s = Status.normalized.text then .ok .normalized
  else if s = Status.failed.text then .ok .failed
  else .error (.unknownVariant s [Status.normalized.text, Status.failed.text])

structure NormalizedFields where
  source : Option Path := none
  output : Option Path := none
  sourceSize : Option Dimensions := none
  placement : Option Placement := none
  flattenedAlpha : Option Bool := none

def normalizedMembers : ItemOutcome → List (String × List Char)
  | .normalized source output sourceSize placement flattenedAlpha =>
    [("source", Format.path.write source), ("output", Format.path.write output),
     ("original", Dimensions.json.write sourceSize), ("placement", Placement.json.write placement),
     ("flattened_alpha", Format.bool.write flattenedAlpha)]
  | .failed .. => []

def normalizedRecord : Record NormalizedFields ItemOutcome where
  name := "struct variant ItemOutcome::Normalized"
  fields :=
    [.of "source" .path NormalizedFields.source fun a p => { p with source := some a },
     .of "output" .path NormalizedFields.output fun a p => { p with output := some a },
     .of "original" Dimensions.json NormalizedFields.sourceSize fun a p => { p with sourceSize := some a },
     .of "placement" Placement.json NormalizedFields.placement fun a p =>
       { p with placement := some a },
     .of "flattened_alpha" .bool NormalizedFields.flattenedAlpha fun a p =>
       { p with flattenedAlpha := some a }]
  blank := {}
  finish p := do
    let source ← required "source" p.source
    let output ← required "output" p.output
    let sourceSize ← required "original" p.sourceSize
    let placement ← required "placement" p.placement
    return .normalized source output sourceSize placement
      (← required "flattened_alpha" p.flattenedAlpha)
  lenient := false
  members := normalizedMembers

structure FailedFields where
  source : Option Path := none
  cause : Option String := none

def failedMembers : ItemOutcome → List (String × List Char)
  | .normalized .. => []
  | .failed source cause =>
    [("source", Format.path.write source), ("cause", Format.string.write cause)]

def failedRecord : Record FailedFields ItemOutcome where
  name := "struct variant ItemOutcome::Failed"
  fields :=
    [.of "source" .path FailedFields.source fun a p => { p with source := some a },
     .of "cause" .string FailedFields.cause fun a p => { p with cause := some a }]
  blank := {}
  finish p := return .failed (← required "source" p.source) (← required "cause" p.cause)
  lenient := false
  members := failedMembers

def ofFields (status : Status) (content : Kept) : Except Cause ItemOutcome :=
  match status with
  | .normalized => normalizedRecord.ofKept content
  | .failed => failedRecord.ofKept content

def expected : String := "internally tagged enum ItemOutcome"

def readStatus : Reader Status :=
  Format.readString "variant identifier" statusOf

def readItems (depth : Nat) : Reader (Status × Kept) := do
  if ← nextElement true then do
    let status ← readStatus
    return (status, .list (← allElements (readKept depth) false))
  else fail (.missingField statusKey)

def readMember (depth : Nat) (state : Option Status × List (String × Kept)) (key : String) :
    Reader (Option Status × List (String × Kept)) := do
  if key = statusKey then
    match state.1 with
    | some _ => fail (.duplicateField statusKey)
    | none => do
      colon
      return (some (← readStatus), state.2)
  else return (state.1, ← keepMember (readKept depth) state.2 key)

def readMembers (depth : Nat) : Reader (Status × Kept) := do
  let (status, entries) ← allMembers (readMember depth) (none, [])
  match status with
  | some status => return (status, .object entries.reverse)
  | none => fail (.missingField statusKey)

def read (depth : Nat) : Reader ItemOutcome := do
  let c ← peekValue
  let (status, content) ←
    if c = '[' then positioned (bracketed depth readItems endList)
    else if c = '\x7b' then positioned (bracketed depth readMembers endObject)
    else wrongKind expected c
  ofExcept (ofFields status content)

def splitStatus (state : Option Kept × List (String × Kept)) (entry : String × Kept) :
    Except Cause (Option Kept × List (String × Kept)) :=
  if entry.1 = statusKey then
    match state.1 with
    | some _ => .error (.duplicateField statusKey)
    | none => .ok (some entry.2, state.2)
  else .ok (state.1, entry :: state.2)

def ofKept (v : Kept) : Except Cause ItemOutcome :=
  let status := Format.keptString "variant identifier" statusOf
  match v with
  | .list [] => .error (.missingField statusKey)
  | .list (tag :: items) => do ofFields (← status tag) (.list items)
  | .object entries => do
    match ← entries.foldlM splitStatus (none, []) with
    | (none, _) => .error (.missingField statusKey)
    | (some tag, others) => ofFields (← status tag) (.object others.reverse)
  | v => .error (.invalidType v.found expected)

def status : ItemOutcome → Status
  | .normalized .. => .normalized
  | .failed .. => .failed

def members (o : ItemOutcome) : List (String × List Char) :=
  (statusKey, writeString o.status.text) ::
    match o.status with
    | .normalized => normalizedMembers o
    | .failed => failedMembers o

def json : Format ItemOutcome where
  read := read
  ofKept := ofKept
  write o := Record.writeMembers o.members

end ItemOutcome

namespace BatchReport

structure Fields where
  outcomes : Option (List ItemOutcome) := none
  startedAt : Option Timestamp := none
  finishedAt : Option Timestamp := none

def record : Record Fields BatchReport where
  name := "struct BatchReport"
  fields :=
    [.of "outcomes" (.list ItemOutcome.json) Fields.outcomes fun a p => { p with outcomes := some a },
     .of "started_at" .timestamp Fields.startedAt fun a p => { p with startedAt := some a },
     .of "finished_at" .timestamp Fields.finishedAt fun a p => { p with finishedAt := some a }]
  blank := {}
  finish p := return ⟨← required "outcomes" p.outcomes, ← required "started_at" p.startedAt,
    ← required "finished_at" p.finishedAt⟩
  lenient := false
  members r := [("outcomes", (Format.list ItemOutcome.json).write r.outcomes),
    ("started_at", Format.timestamp.write r.startedAt),
    ("finished_at", Format.timestamp.write r.finishedAt)]

def json : Format BatchReport := record.format

end BatchReport
end Storefront
