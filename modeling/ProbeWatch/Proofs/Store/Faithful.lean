import Mathlib.Logic.Function.Basic
import ProbeWatch.Store.File.Call
import ProbeWatch.Store.Memory

/-!
# Faithful storage

Storage is faithful when a text that was put under a key and flushed is read back.  A file store
is, because only the first step of a call changes its entries; storage in memory is whenever it can
be read.  Both kinds of storage are lawful: an operation that succeeds does what it says and nothing
else.
-/

namespace ProbeWatch

/-- Whether a text that is put into the storage and flushed is read back. -/
def KeyValueStore.Faithful {σ : Type} [KeyValueStore σ] (storage : σ) : Prop :=
  ∀ (key value : String) (written flushed : σ),
    KeyValueStore.set storage key value = (written, .ok ()) →
      KeyValueStore.flush written = (flushed, .ok ()) →
        KeyValueStore.get flushed key = .ok (some value)

/-- What storage shows holds to the laws of a map, as far as operations succeed. -/
structure KeyValueStore.Lawful {σ : Type} [KeyValueStore σ]
    (text? : σ → String → Option String) : Prop where
  get : ∀ {storage : σ} {key : String} {found : Option String},
    KeyValueStore.get storage key = .ok found → text? storage key = found
  set : ∀ {storage after : σ} {key value : String},
    KeyValueStore.set storage key value = (after, .ok ()) →
      text? after = Function.update (text? storage) key (some value)
  remove : ∀ {storage after : σ} {key : String},
    KeyValueStore.remove storage key = (after, .ok ()) →
      text? after = Function.update (text? storage) key none

open KeyValueStore (Faithful Lawful)

/-! ## Dictionaries -/

theorem Dict.get?_insert {α : Type} (key : String) (value : α) (dict : Dict α) :
    (Dict.get? · (Dict.insert key value dict)) =
      Function.update (Dict.get? · dict) key (some value) := by
  funext other
  by_cases same : other = key
  · rw [same, Function.update_self, Dict.get?_insert_self]
  · rw [Function.update_of_ne same, Dict.get?_insert_of_ne same]

theorem Dict.get?_erase {α : Type} (key : String) (dict : Dict α) :
    (Dict.get? · (Dict.erase key dict)) = Function.update (Dict.get? · dict) key none := by
  funext other
  by_cases same : other = key
  · rw [same, Function.update_self, Dict.get?_erase_self]
  · rw [Function.update_of_ne same, Dict.get?_erase_of_ne same]

/-! ## Memory -/

namespace MemoryStore

theorem flush_fst (store : MemoryStore) : store.flush.1 = store := by
  rw [flush]
  split <;> rfl

theorem faithful {store : MemoryStore} (readable : ∀ key, store.isFailing "get" key = false) :
    Faithful store := by
  intro key value written flushed put emptied
  change store.set key value = (written, .ok ()) at put
  change written.flush = (flushed, .ok ()) at emptied
  have kept := flush_fst written
  rw [emptied] at kept
  rw [set] at put
  split at put
  · cases congrArg Prod.snd put
  · have held : { store with entries := Dict.insert key value store.entries } = flushed :=
      (congrArg Prod.fst put).trans kept.symm
    have answers : flushed.isFailing "get" key = false := held ▸ readable key
    change get flushed key = _
    rw [get, answers, if_neg Bool.false_ne_true, ← held, Dict.get?_insert_self]

theorem lawful : Lawful fun (store : MemoryStore) key => Dict.get? key store.entries where
  get {store key found} answered := by
    change store.get key = .ok found at answered
    rw [get] at answered
    split at answered
    · cases answered
    · cases answered
      rfl
  set {store after key value} put := by
    change store.set key value = (after, .ok ()) at put
    rw [set] at put
    split at put
    · cases congrArg Prod.snd put
    · cases put
      exact Dict.get?_insert key value store.entries
  remove {store after key} removed := by
    change store.remove key = (after, .ok ()) at removed
    rw [remove] at removed
    split at removed
    · cases congrArg Prod.snd removed
    · cases removed
      exact Dict.get?_erase key store.entries

end MemoryStore

/-! ## Files -/

namespace FileStore

/-- Whether the next step of a call changes the entries. -/
def Call.changes : Call → Bool
  | .update _ => true
  | _ => false

theorem proceed_spec (store : FileStore) (attempted : Disk × Except DiskError Unit)
    (doing : String) {next : Call} (quiet : next.changes = false) :
    (store.proceed attempted doing next).1.changes = false ∧
      (store.proceed attempted doing next).2.entries = store.entries := by
  refine ⟨?_, rfl⟩
  rw [proceed]
  split
  · exact quiet
  · rfl

/-- Only the first step of a change alters the entries, and it is never repeated. -/
theorem step_of_not_changes (store : FileStore) (fault : Option Fault) {call : Call}
    (quiet : call.changes = false) :
    (store.step fault call).1.changes = false ∧
      (store.step fault call).2.entries = store.entries := by
  cases call with
  | update change => cases quiet
  | checkDirty =>
      refine ⟨?_, rfl⟩
      rw [step]
      split <;> rfl
  | acquire => exact ⟨rfl, rfl⟩
  | capture => exact ⟨rfl, rfl⟩
  | createTemp text => exact proceed_spec store _ _ rfl
  | writeTemp text => exact proceed_spec store _ _ rfl
  | flushTemp => exact proceed_spec store _ _ rfl
  | backUp =>
      rw [step]
      split <;> exact ⟨rfl, rfl⟩
  | moveTemp => exact proceed_spec store _ _ rfl
  | markDirty failure => exact ⟨rfl, rfl⟩
  | release outcome => exact ⟨rfl, rfl⟩
  | done outcome => exact ⟨rfl, rfl⟩

theorem entries_run (faults : Nat → Option Fault) (call : Call) (store : FileStore)
    (quiet : call.changes = false) : (run faults call store).2.entries = store.entries := by
  induction call, store using run.induct faults with
  | case1 call store ended => rw [run, dif_pos ended]
  | case2 call store unfinished next ih =>
      have step := step_of_not_changes store (faults call.rank) quiet
      rw [run, dif_neg unfinished]
      exact (ih step.1).trans step.2

theorem entries_set (store : FileStore) (key value : String) :
    (store.set key value).1.entries = Dict.insert key ⟨value, store.now⟩ store.entries := by
  have unfinished : (Call.update (.set key value)).rank ≠ 0 := Nat.succ_ne_zero 9
  change (run _ (.update (.set key value)) store).2.entries = _
  rw [run, dif_neg unfinished]
  exact entries_run _ .acquire _ rfl

theorem entries_remove (store : FileStore) (key : String) :
    (store.remove key).1.entries =
      if Dict.contains key store.entries then Dict.erase key store.entries else store.entries := by
  have unfinished : (Call.update (.remove key)).rank ≠ 0 := Nat.succ_ne_zero 9
  change (run _ (.update (.remove key)) store).2.entries = _
  rw [run, dif_neg unfinished]
  by_cases held : Dict.contains key store.entries = true
  · simp only [step, change?, if_pos held]
    exact entries_run _ .acquire _ rfl
  · simp only [step, change?, if_neg held]
    exact entries_run _ (.done (.ok ())) store rfl

theorem entries_flush (store : FileStore) : store.flush.1.entries = store.entries :=
  entries_run _ .checkDirty store rfl

theorem faithful (store : FileStore) : Faithful store := by
  intro key value written flushed put emptied
  have changed := entries_set store key value
  have kept := entries_flush written
  change store.set key value = (written, .ok ()) at put
  change written.flush = (flushed, .ok ()) at emptied
  rw [put] at changed
  rw [emptied] at kept
  change Except.ok (flushed.get key) = _
  rw [get, kept, changed, Dict.get?_insert_self]
  rfl

theorem get_of_entries {store after : FileStore} {key : String}
    (found : Option StateFile.StoredText)
    (changed : (Dict.get? · after.entries) =
      Function.update (Dict.get? · store.entries) key found) :
    after.get = Function.update store.get key (found.map (·.value)) := by
  have texts := congrArg (Option.map StateFile.StoredText.value ∘ ·) changed
  rwa [Function.comp_update] at texts

theorem lawful : Lawful FileStore.get where
  get answered := Except.ok.inj answered
  set {store after key value} put := by
    have changed := entries_set store key value
    change store.set key value = (after, .ok ()) at put
    rw [put] at changed
    refine get_of_entries (some ⟨value, store.now⟩) ?_
    rw [changed]
    exact Dict.get?_insert key _ store.entries
  remove {store after key} removed := by
    have changed := entries_remove store key
    change store.remove key = (after, .ok ()) at removed
    rw [removed] at changed
    refine get_of_entries none ?_
    rw [changed]
    split
    · exact Dict.get?_erase key store.entries
    · rename_i missing
      have vacant : Dict.get? key store.entries = none := by
        simpa [Dict.contains] using missing
      rw [← vacant, Function.update_eq_self]

end FileStore
end ProbeWatch
