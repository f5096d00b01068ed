import ProbeWatch.Dict
import ProbeWatch.Store.Basic

/-!
# Storage in memory

A dictionary with a list of operations that are out of order.  An operation that is out of order
reports a failure and changes nothing.
-/

namespace ProbeWatch

/-- Storage in memory. -/
structure MemoryStore where
  /-- The texts that are held. -/
  entries : Dict String
  /-- The operations that fail: the name of one, or its name and a key behind a colon. -/
  failing : List String
deriving DecidableEq, Inhabited

namespace MemoryStore

/-- Whether an operation on a key is out of order. -/
def isFailing (store : MemoryStore) (operation key : String) : Bool :=
  store.failing.contains operation || store.failing.contains (operation ++ ":" ++ key)

/-- The failure of an operation that is out of order. -/
def unavailable : Failure := .storage "disk unavailable"

/-- The text under a key. -/
def get (store : MemoryStore) (key : String) : Except Failure (Option String) :=
  if store.isFailing "get" key then .error unavailable else .ok (Dict.get? key store.entries)

/-- Puts a text under a key. -/
def set (store : MemoryStore) (key value : String) : MemoryStore × Except Failure Unit :=
  if store.isFailing "set" key then (store, .error unavailable)
  else ({ store with entries := Dict.insert key value store.entries }, .ok ())

/-- Removes what is under a key. -/
def remove (store : MemoryStore) (key : String) : MemoryStore × Except Failure Unit :=
  if store.isFailing "remove" key then (store, .error unavailable)
  else ({ store with entries := Dict.erase key store.entries }, .ok ())

/-- Does nothing, as nothing is held back. -/
def flush (store : MemoryStore) : MemoryStore × Except Failure Unit :=
  if store.isFailing "flush" "" then (store, .error unavailable) else (store, .ok ())

instance : KeyValueStore MemoryStore := ⟨get, set, remove, flush⟩

end MemoryStore
end ProbeWatch
