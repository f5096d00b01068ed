import ProbeWatch.Credential
import ProbeWatch.Log
import ProbeWatch.Store.Basic
import ProbeWatch.Text.Blank

/-!
# The credential store

A credential is resolved from durable storage and, failing that, from the environment; it is set
and cleared by the user.  Each call is a sequence of steps, and each step is one storage operation
or the publication of the result, so calls that overlap can be interleaved step by step.
-/

namespace ProbeWatch

namespace CredentialStore

/-- The storage key of the credential. -/
def currentKey : String := "DNSLOG_API_KEY"

/-- The storage key that earlier versions used. -/
def legacyKey : String := "api_key"

/-- What a call acts on: the storage, the credential in effect, and the log. -/
structure Desk (σ : Type) where
  storage : σ
  published : Credential
  log : List LogLine

/-- What is left to do of a call. -/
inductive Call
  /-- Read the current key. -/
  | readCurrent
  /-- Read the legacy key. -/
  | readLegacy
  /-- Remove the current key and then the legacy key, to resolve or to clear. -/
  | removeCurrent (resolving : Bool)
  /-- Remove the legacy key, to resolve or to clear. -/
  | removeLegacy (resolving : Bool)
  /-- Write the current key and then publish it. -/
  | write (key : String)
  /-- Publish what the environment supplies. -/
  | fallBack
  /-- Publish a credential, to resolve or not. -/
  | publish (credential : Credential) (resolving : Bool)
  /-- Nothing; the call returns the credential. -/
  | done (credential : Credential)
deriving DecidableEq

/-- How many steps a call may still take. -/
def Call.rank : Call → Nat
  | .readCurrent => 5
  | .readLegacy => 4
  | .removeCurrent _ => 3
  | .removeLegacy _ => 2
  | .write _ => 2
  | .fallBack => 1
  | .publish .. => 1
  | .done _ => 0

/-- What a finished call returns. -/
def Call.result : Call → Credential
  | .done credential => credential
  | _ => .absent

/-- The credential that the environment supplies, and what is said about it. -/
def fromEnvironment (environment : Option String) : Credential × List LogLine :=
  match environment.map Text.trim with
  | none => (.absent, [])
  | some key =>
      if isApiKey key then (⟨key, .environment⟩, [])
      else if key.isEmpty then (.absent, [])
      else
        (.absent, [.warn .credentials "Environment API key has an invalid format, ignoring it"])

/-- The call after the stored text is known, and what is said about it. -/
def settle (stored : Option String) : Call × List LogLine :=
  match stored with
  | some key =>
      if isApiKey key then (.publish ⟨key, .stored⟩ true, [])
      else
        (.removeCurrent true,
          [.warn .credentials "Persisted API key has an invalid format, discarding it"])
  | none => (.fallBack, [])

/-- The text under a key, if there is one that is not empty, and what is said about a failure. -/
def readKey {σ : Type} [KeyValueStore σ] (storage : σ) (key : String) :
    Option String × List LogLine :=
  match KeyValueStore.get storage key with
  | .ok (some value) => (if value.isEmpty then none else some value, [])
  | .ok none => (none, [])
  | .error failure =>
      (none,
        [.warn .credentials
          ("Failed to read persisted API key from " ++ key ++ ": " ++ failure.message)])

/-- The desk after the removal of a key. -/
def removeKey {σ : Type} [KeyValueStore σ] (desk : Desk σ) (key : String) : Desk σ :=
  let (storage, outcome) := KeyValueStore.remove desk.storage key
  let log :=
    match outcome with
    | .ok () => []
    | .error failure =>
        [.warn .credentials
          ("Failed to remove persisted API key " ++ key ++ ": " ++ failure.message)]
  { desk with storage, log := desk.log ++ log }

/-- What is said about the credential that a resolution arrived at. -/
def resolvedLine (credential : Credential) : LogLine :=
  .info .credentials
    ("API key resolved: source=" ++ credential.source.word ++ " key=" ++ credential.shown)

/-- The desk on which a credential is in effect. -/
def Desk.publish {σ : Type} (desk : Desk σ) (credential : Credential) (log : List LogLine) :
    Desk σ :=
  { desk with published := credential, log := desk.log ++ log }

/-- One step of a call. -/
def step {σ : Type} [KeyValueStore σ] (environment : Option String) (desk : Desk σ) :
    Call → Call × Desk σ
  | .readCurrent =>
      let (stored, log) := readKey desk.storage currentKey
      let (call, said) := if stored.isSome then settle stored else (.readLegacy, [])
      (call, { desk with log := desk.log ++ log ++ said })
  | .readLegacy =>
      let (stored, log) := readKey desk.storage legacyKey
      let (call, said) := settle stored
      (call, { desk with log := desk.log ++ log ++ said })
  | .removeCurrent resolving => (.removeLegacy resolving, removeKey desk currentKey)
  | .removeLegacy resolving =>
      (if resolving then .fallBack else .publish .absent false, removeKey desk legacyKey)
  | .write key =>
      let (storage, outcome) := KeyValueStore.set desk.storage currentKey key
      let log :=
        match outcome with
        | .ok () => []
        | .error failure => [.warn .credentials ("Failed to persist API key: " ++ failure.message)]
      (.publish ⟨key, .stored⟩ false, { desk with storage, log := desk.log ++ log })
  | .fallBack =>
      let (credential, log) := fromEnvironment environment
      (.done credential, desk.publish credential (log ++ [resolvedLine credential]))
  | .publish credential resolving =>
      (.done credential,
        desk.publish credential (if resolving then [resolvedLine credential] else []))
  | .done credential => (.done credential, desk)

theorem rank_settle_lt (stored : Option String) : (settle stored).1.rank < 4 := by
  unfold settle
  split
  · split <;> simp [Call.rank]
  · simp [Call.rank]

/-- Every step of an unfinished call brings it nearer to its end. -/
theorem rank_step_lt {σ : Type} [KeyValueStore σ] (environment : Option String) (desk : Desk σ)
    (call : Call) (unfinished : call.rank ≠ 0) :
    (step environment desk call).1.rank < call.rank := by
  cases call with
  | readCurrent =>
      have settled := rank_settle_lt (readKey desk.storage currentKey).1
      simp only [step]
      split
      · simpa [Call.rank] using Nat.lt_succ_of_lt settled
      · simp [Call.rank]
  | readLegacy => exact rank_settle_lt _
  | removeCurrent resolving => simp [step, Call.rank]
  | removeLegacy resolving => cases resolving <;> simp [step, Call.rank]
  | write key => simp [step, Call.rank]
  | fallBack => simp [step, Call.rank]
  | publish credential resolving => simp [step, Call.rank]
  | done credential => simp [Call.rank] at unfinished

/-- A call run to its end with no other call in between. -/
def run {σ : Type} [KeyValueStore σ] (environment : Option String) (call : Call)
    (desk : Desk σ) : Credential × Desk σ :=
  if _ : call.rank = 0 then
    (call.result, desk)
  else
    let next := step environment desk call
    run environment next.1 next.2
termination_by call.rank
decreasing_by exact rank_step_lt environment desk call ‹_›

/-- The call that settles on a credential at the start of a run. -/
def resolve : Call := .readCurrent

/-- The call that forgets the credential. -/
def clear : Call := .removeCurrent false

/-- The call that adopts what the user entered, and what is said about it. -/
def set (raw : String) : Call × List LogLine :=
  let key := Text.trim raw
  if isApiKey key then
    (.write key, [])
  else if key.isEmpty then
    (clear, [])
  else
    (clear,
      [.debug .credentials
        ("Rejected API key with invalid format (" ++ toString key.utf8ByteSize ++ " chars)")])

end CredentialStore
end ProbeWatch
