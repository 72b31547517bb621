import Storefront.Geometry.Placement
import Storefront.Path
import Storefront.Time.Timestamp

/-! What became of the files of a batch. -/

namespace Storefront

inductive ItemOutcome where
  | normalized (source output : Path) (sourceSize : Dimensions) (placement : Placement)
      (flattenedAlpha : Bool)
  | failed (source : Path) (cause : String)
deriving DecidableEq

namespace ItemOutcome

def isSuccess : ItemOutcome → Bool
  | .normalized .. => true
  | .failed .. => false

def source : ItemOutcome → Path
  | .normalized source .. => source
  | .failed source _ => source

def failure? : ItemOutcome → Option (Path × String)
  | .normalized .. => none
  | .failed source cause => some (source, cause)

end ItemOutcome

structure BatchReport where
  outcomes : List ItemOutcome
  startedAt : Timestamp
  finishedAt : Timestamp
deriving DecidableEq

namespace BatchReport

def start (now : Timestamp) : BatchReport := ⟨[], now, now⟩

def push (r : BatchReport) (o : ItemOutcome) : BatchReport :=
  { r with outcomes := r.outcomes ++ [o] }

def finish (r : BatchReport) (now : Timestamp) : BatchReport :=
  { r with finishedAt := now }

def total (r : BatchReport) : Nat := r.outcomes.length

def succeeded (r : BatchReport) : Nat := r.outcomes.countP (·.isSuccess)

def failed (r : BatchReport) : Nat := r.total - r.succeeded

def failures (r : BatchReport) : List (Path × String) :=
  r.outcomes.filterMap (·.failure?)

end BatchReport
end Storefront
