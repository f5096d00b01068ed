import ProbeWatch.Store.Basic
import ProbeWatch.Store.File.Basic

/-!
# Calls on a file store

Setting, removing and flushing are calls, and each call is a sequence of steps.  A step changes the
memory, looks at the flag, takes the lock of the writers, or is one operation on the disk, which a
fault can make fail; so calls that overlap can be interleaved step by step, and a call can be broken
off at each of them.  Only one call at a time is between the taking of the lock and its release.
-/

namespace ProbeWatch.FileStore

open StateFile (StoredText)

/-- A change of the entries. -/
inductive Change
  /-- Put a text under a key. -/
  | set (key value : String)
  /-- Remove what is under a key. -/
  | remove (key : String)
deriving DecidableEq

/-- What is left to do of a call. -/
inductive Call
  /-- Change the entries in memory. -/
  | update (change : Change)
  /-- Look whether anything is to be written. -/
  | checkDirty
  /-- Take the lock of the writers. -/
  | acquire
  /-- Take the text that is to be written from memory. -/
  | capture
  /-- Create the temporary file. -/
  | createTemp (text : String)
  /-- Write the temporary file. -/
  | writeTemp (text : String)
  /-- Flush the temporary file. -/
  | flushTemp
  /-- Copy the state file to the backup. -/
  | backUp
  /-- Move the temporary file to the state file. -/
  | moveTemp
  /-- Note that the memory is ahead of the state file. -/
  | markDirty (failure : Failure)
  /-- Release the lock of the writers. -/
  | release (outcome : Except Failure Unit)
  /-- Nothing; the call returns. -/
  | done (outcome : Except Failure Unit)

namespace Call

/-- How many steps a call may still take. -/
def rank : Call → Nat
  | .update _ => 10
  | .checkDirty => 10
  | .acquire => 9
  | .capture => 8
  | .createTemp _ => 7
  | .writeTemp _ => 6
  | .flushTemp => 5
  | .backUp => 4
  | .moveTemp => 3
  | .markDirty _ => 2
  | .release _ => 1
  | .done _ => 0

/-- Whether a call holds the lock of the writers. -/
def holdsLock : Call → Bool
  | .update _ | .checkDirty | .acquire | .done _ => false
  | _ => true

/-- What a finished call returns. -/
def outcome : Call → Except Failure Unit
  | .done outcome => outcome
  | _ => .ok ()

end Call

/-- A failure of one operation on the disk. -/
structure Fault where
  /-- What the operation reports. -/
  error : DiskError
  /-- How many bytes were written before. -/
  kept : Nat

/-- The store with the entries after a change, unless the change removes what is not there. -/
def change? (store : FileStore) : Change → Option FileStore
  | .set key value =>
      some { store with
        entries := Dict.insert key ⟨value, store.now⟩ store.entries
        dirty := true }
  | .remove key =>
      if Dict.contains key store.entries then
        some { store with entries := Dict.erase key store.entries, dirty := true }
      else
        none

/-- The outcome of an operation on the disk under a fault, and the disk after it.  A fault in the
middle of writing leaves the first bytes behind. -/
def attempt (disk : Disk) (fault : Option Fault) (operation : Except DiskError Disk)
    (cutOff : Nat → Except DiskError Disk) : Disk × Except DiskError Unit :=
  match fault with
  | some fault => ((cutOff fault.kept).toOption.getD disk, .error fault.error)
  | none =>
      match operation with
      | .ok after => (after, .ok ())
      | .error error => (disk, .error error)

/-- The call after an operation on the disk that must not fail, and the store after it. -/
def proceed (store : FileStore) (attempted : Disk × Except DiskError Unit) (doing : String)
    (next : Call) : Call × FileStore :=
  ((match attempted.2 with
    | .ok () => next
    | .error error => .markDirty (.storage ("Failed to " ++ doing ++ ": " ++ error.message))),
    { store with disk := attempted.1 })

/-- One step of a call, under a fault if it is an operation on the disk. -/
def step (store : FileStore) (fault : Option Fault) : Call → Call × FileStore
  | .update change =>
      match store.change? change with
      | some changed => (.acquire, changed)
      | none => (.done (.ok ()), store)
  | .checkDirty => (if store.dirty then .acquire else .done (.ok ()), store)
  | .acquire => (.capture, store)
  | .capture => (.createTemp (StateFile.encode store.entries), { store with dirty := false })
  | .createTemp text =>
      let temp := tempPath store.path
      let attempted := attempt store.disk fault (store.disk.create temp) fun _ => .ok store.disk
      store.proceed attempted ("create temp file " ++ temp) (.writeTemp text)
  | .writeTemp text =>
      let temp := tempPath store.path
      let content := text.toUTF8
      let attempted := attempt store.disk fault (store.disk.write temp content) fun kept =>
        store.disk.write temp (content.extract 0 kept)
      store.proceed attempted ("write to temp file " ++ temp) .flushTemp
  | .flushTemp =>
      let attempted := attempt store.disk fault (.ok store.disk) fun _ => .ok store.disk
      store.proceed attempted ("flush temp file " ++ tempPath store.path) .backUp
  | .backUp =>
      let disk := store.disk
      let backup := backupPath store.path
      if disk.leadsSomewhere store.path then
        let attempted := attempt disk fault (disk.copy store.path backup none) fun kept =>
          disk.copy store.path backup (some kept)
        (.moveTemp, { store with disk := attempted.1 })
      else
        (.moveTemp, store)
  | .moveTemp =>
      let temp := tempPath store.path
      let attempted := attempt store.disk fault (store.disk.rename temp store.path) fun _ =>
        .ok store.disk
      store.proceed attempted ("rename " ++ temp ++ " to " ++ store.path) (.release (.ok ()))
  | .markDirty failure => (.release (.error failure), { store with dirty := true })
  | .release outcome => (.done outcome, store)
  | .done outcome => (.done outcome, store)

/-- Every step of an unfinished call brings it nearer to its end. -/
theorem rank_step_lt (store : FileStore) (fault : Option Fault) (call : Call)
    (unfinished : call.rank ≠ 0) : (store.step fault call).1.rank < call.rank := by
  cases call <;> simp only [step, proceed] <;> (repeat' split) <;> simp_all [Call.rank]

/-- A call run to its end with no other call in between, where the operation on the disk with which
a call of a given rank goes on may meet a fault. -/
def run (faults : Nat → Option Fault) (call : Call) (store : FileStore) :
    Except Failure Unit × FileStore :=
  if _ : call.rank = 0 then
    (call.outcome, store)
  else
    let next := store.step (faults call.rank) call
    run faults next.1 next.2
termination_by call.rank
decreasing_by exact rank_step_lt store _ call ‹_›

/-- A call run to its end on a disk without faults. -/
def apply (store : FileStore) (call : Call) : FileStore × Except Failure Unit :=
  (run (fun _ => none) call store).swap

/-- Puts a text under a key. -/
def set (store : FileStore) (key value : String) : FileStore × Except Failure Unit :=
  store.apply (.update (.set key value))

/-- Removes what is under a key. -/
def remove (store : FileStore) (key : String) : FileStore × Except Failure Unit :=
  store.apply (.update (.remove key))

/-- Writes what an earlier call could not write. -/
def flush (store : FileStore) : FileStore × Except Failure Unit :=
  store.apply .checkDirty

instance : KeyValueStore FileStore := ⟨fun store key => .ok (store.get key), set, remove, flush⟩

end ProbeWatch.FileStore
