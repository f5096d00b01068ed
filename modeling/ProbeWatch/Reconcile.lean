import ProbeWatch.Json.Record

/-!
# Reconciling results

What becomes of the results on display when a poll brings new ones, and when it fails.
-/

namespace ProbeWatch

/-- What new results do to the old ones. -/
inductive ReconcileMode
  /-- They take their place. -/
  | replace
  /-- They are put after them. -/
  | append
deriving DecidableEq, Inhabited

/-- What a failure does to the old results. -/
inductive FailurePolicy
  /-- They stay. -/
  | keep
  /-- They go. -/
  | clear
deriving DecidableEq, Inhabited

namespace ReconcileMode

/-- The mode of a name. -/
def ofName? : String → Option ReconcileMode
  | "replace" => some .replace
  | "append" => some .append
  | _ => none

/-- The name of a mode. -/
def name : ReconcileMode → String
  | .replace => "replace"
  | .append => "append"

/-- The name of a mode as a word of its own. -/
def title : ReconcileMode → String
  | .replace => "Replace"
  | .append => "Append"

/-- Reads a mode. -/
def ofJson? (json : Json) : Option ReconcileMode := json.variant? >>= ofName?

/-- Writes a mode. -/
def toJson (mode : ReconcileMode) : Json := .string mode.name

end ReconcileMode

namespace FailurePolicy

/-- The policy of a name. -/
def ofName? : String → Option FailurePolicy
  | "keep" => some .keep
  | "clear" => some .clear
  | _ => none

/-- The name of a policy. -/
def name : FailurePolicy → String
  | .keep => "keep"
  | .clear => "clear"

/-- Reads a policy. -/
def ofJson? (json : Json) : Option FailurePolicy := json.variant? >>= ofName?

/-- Writes a policy. -/
def toJson (policy : FailurePolicy) : Json := .string policy.name

end FailurePolicy

/-- The results after new ones arrived. -/
def reconcile {α : Type} (existing incoming : List α) : ReconcileMode → List α
  | .replace => incoming
  | .append => existing ++ incoming

/-- The results after a failure. -/
def reconcileFailure {α : Type} (existing : List α) : FailurePolicy → List α
  | .keep => existing
  | .clear => []

end ProbeWatch
