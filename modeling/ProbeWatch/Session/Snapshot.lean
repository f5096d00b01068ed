import ProbeWatch.Json.Node
import ProbeWatch.Json.Printer
import ProbeWatch.Log
import ProbeWatch.Session.Basic
import ProbeWatch.Store.Basic
import ProbeWatch.Text.Blank

/-!
# Snapshots

A session outlives its program as a text in durable storage.  A stored tree is laid over a default
one field by field, and each module that does not read is replaced by its default alone.
-/

namespace ProbeWatch

namespace Snapshot

/-- The storage key of the session. -/
def key : String := "STORE"

/-- A default module under a persisted one. -/
def mergeModule (default : Json) (persisted : Option Json) : Json :=
  match default, persisted with
  | default, none => default
  | .object fields, some (.object overrides) => .object (Dict.overlay fields overrides)
  | .object fields, some _ => .object fields
  | _, some value => value

/-- A default tree under a persisted one.  Modules that the defaults lack are dropped. -/
def merge (defaults persisted : Json) : Json :=
  match defaults, persisted with
  | .object modules, .object overrides =>
      .object (modules.map fun (name, module) => (name, mergeModule module (Dict.get? name overrides)))
  | defaults, _ => defaults

/-- The tree with one module replaced, if it still reads as a session. -/
def adoptModule (tree : Json) (module : String × Json) : Json :=
  match tree with
  | .object modules =>
      let candidate : Json := .object (Dict.insert module.1 module.2 modules)
      if (Session.ofJson? candidate).isSome then candidate else tree
  | tree => tree

/-- The tree with every module of `merged` that reads as one. -/
def adopt (tree merged : Json) : Json :=
  match merged with
  | .object modules => modules.foldl adoptModule tree
  | _ => tree

/-- Why a session could not be restored. -/
inductive RestoreError
  /-- The storage could not be read. -/
  | storage (failure : Failure)
  /-- The stored text is not JSON. -/
  | corrupt
  /-- The tree does not read as a session. -/
  | shape
deriving DecidableEq

/-- The text of an error, with what stands for the parser's own words. -/
def RestoreError.message (detail : String) : RestoreError → String
  | .storage failure => "failed to read persisted session: " ++ failure.message
  | .corrupt => "persisted session is not valid JSON: " ++ detail
  | .shape => "persisted session does not match the session shape: " ++ detail

/-- The text of a snapshot. -/
def text (session : Session) : String := session.toJson.compact

/-- The session that a stored text and the defaults give. -/
def read (defaults : Session) (stored : Option String) : Except RestoreError Session :=
  match stored with
  | none => .ok defaults
  | some text =>
      if Text.isAllBlank text then
        .ok defaults
      else
        match Json.parse? text with
        | none => .error .corrupt
        | some persisted =>
            let tree := defaults.toJson.sorted
            match Session.ofJson? (adopt tree (merge tree persisted)) with
            | some restored => .ok { restored with credential := defaults.credential }
            | none => .error .shape

variable {σ : Type} [KeyValueStore σ]

/-- Writes a snapshot and flushes the storage. -/
def write (storage : σ) (session : Session) : σ × Except Failure Unit :=
  match KeyValueStore.set storage key (text session) with
  | (storage, .error failure) => (storage, .error failure)
  | (storage, .ok ()) => KeyValueStore.flush storage

/-- Restores a session from storage. -/
def restore (storage : σ) (defaults : Session) : Except RestoreError Session :=
  match KeyValueStore.get storage key with
  | .ok stored => read defaults stored
  | .error failure => .error (.storage failure)

/-- Restores a session from storage, or starts from the defaults. -/
def restoreOrDefaults (storage : σ) (defaults : Session) : Session :=
  match restore storage defaults with
  | .ok session => session
  | .error _ => defaults

end Snapshot
end ProbeWatch
