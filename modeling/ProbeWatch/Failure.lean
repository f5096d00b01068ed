/-!
# Failures

The failures of the library itself, as opposed to those of the backend.
-/

namespace ProbeWatch

/-- What went wrong. -/
inductive Failure
  /-- Durable storage could not be read or written. -/
  | storage (reason : String)
  /-- The configuration cannot be used. -/
  | config (reason : String)
  /-- A stored text does not decode. -/
  | json
  /-- A caller passed a value that is not allowed. -/
  | invalidInput (reason : String)
deriving DecidableEq, Inhabited

namespace Failure

/-- The category of a failure. -/
def kind : Failure → String
  | .storage _ => "storage"
  | .config _ => "config"
  | .json => "json"
  | .invalidInput _ => "invalid_input"

/-- The text of a failure. -/
def message : Failure → String
  | .storage reason => "Storage error: " ++ reason
  | .config reason => "Configuration error: " ++ reason
  | .json => "JSON error"
  | .invalidInput reason => "Invalid input: " ++ reason

end Failure
end ProbeWatch
