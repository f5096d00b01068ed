import ProbeWatch.Failure

/-!
# Key/value storage

What the credential store and the persisted session ask of durable storage.
-/

namespace ProbeWatch

/-- Durable storage of texts under keys.  Every operation that may change the storage returns it,
also when it fails. -/
class KeyValueStore (σ : Type) where
  /-- The text under a key. -/
  get : σ → String → Except Failure (Option String)
  /-- Puts a text under a key. -/
  set : σ → String → String → σ × Except Failure Unit
  /-- Removes what is under a key. -/
  remove : σ → String → σ × Except Failure Unit
  /-- Brings what is still held back to the disk. -/
  flush : σ → σ × Except Failure Unit

end ProbeWatch
