import ProbeWatch.Proofs.Store.Usage

/-!
# Stores that are not dirty

A store is used by one call after another, under faults of the disk.  Unless it is in the middle of
writing, a store that is not dirty has on disk what it has in memory, and so has every store whose
flush returned without a failure.  A call that returns a failure leaves the bytes of the state file
as they were.
-/

namespace ProbeWatch.FileStore

open StateFile (StoredText)
open Disk (found?)

/-! ## Calls that return a failure -/

theorem run_release (faults : Nat → Option Fault) (outcome : Except Failure Unit)
    (store : FileStore) : run faults (.release outcome) store = (outcome, store) := by
  have going : (Call.release outcome).rank ≠ 0 := Nat.succ_ne_zero 0
  rw [run_of_rank_ne_zero faults going, step, run]
  rfl

/-- A call that returns a failure leaves the bytes of the state file as they were, and the entries
that it opens with. -/
theorem state_file_of_run {store after : FileStore} (apart : Apart store.path)
    (faults : Nat → Option Fault) {call : Call} {failure : Failure}
    (ran : run faults call store = (.error failure, after)) :
    after.disk.found? store.path = store.disk.found? store.path ∧
      ∀ entries, Holds store.path store.disk entries → Holds store.path after.disk entries := by
  induction rank : call.rank using Nat.strongRecOn generalizing call store with
  | _ rank ih =>
      by_cases ended : call.rank = 0
      · rw [run, dif_pos ended] at ran
        obtain rfl : store = after := congrArg Prod.snd ran
        exact ⟨rfl, fun _ holds => holds⟩
      subst rank
      rw [run_of_rank_ne_zero faults ended] at ran
      have fewer := rank_step_lt store (faults call.rank) call ended
      have path_eq := (effect_step store (faults call.rank) call).path_now.1
      have isn't : (store.step (faults call.rank) call).1 ≠ .release (.ok ()) := by
        intro moved
        rw [moved, run_release] at ran
        cases ran
      have spares := spares_step apart (faults call.rank) isn't
      obtain ⟨same, kept⟩ := ih _ fewer (path_eq.symm ▸ apart) ran rfl
      rw [path_eq] at same kept
      exact ⟨same.trans (spares.found? apart), fun entries holds =>
        kept entries (spares.holds apart holds)⟩

/-! ## Clean stores -/

/-- A store that is not dirty and not writing has on disk what it has in memory.  A flush that returns
without a failure brings this about, whatever failed before, and a call that returns a failure leaves
the bytes of the state file as they were, from which the same entries are read as before. -/
theorem clean_stores_are_durable {disk : Disk} {path : String} {store : FileStore}
    (opened : OpenedOn disk path store) {usage : Usage} (used : Used store usage) (later : Moment) :
    (usage.store.dirty = false → usage.call.isWriting = false →
      openAt usage.store.disk path later =
        (usage.store.disk, .ok ⟨path, usage.store.disk, usage.store.entries, false, later⟩)) ∧
    ∀ outcome, usage.call = .done outcome → ∀ now : Moment, now.IsValid →
      ∀ (faults : Nat → Option Fault) (after : FileStore),
        (run faults .checkDirty (usage.store.atTime now) = (.ok (), after) →
          after.entries = usage.store.entries ∧
            openAt after.disk path later =
              (after.disk, .ok ⟨path, after.disk, after.entries, false, later⟩)) ∧
        ∀ (request : Call) (failure : Failure), request.isRequest = true →
          run faults request (usage.store.atTime now) = (.error failure, after) →
          after.disk.found? path = usage.store.disk.found? path ∧
            ∃ entries,
              openAt usage.store.disk path later =
                (usage.store.disk, .ok ⟨path, usage.store.disk, entries, false, later⟩) ∧
              openAt after.disk path later =
                (after.disk, .ok ⟨path, after.disk, entries, false, later⟩) := by
  have steady := steady_of_used opened used
  constructor
  · intro still quiet
    have durable : usage.durable = usage.store.entries := by
      refine (steady.clean still).resolve_right ?_
      rw [quiet]
      exact Bool.false_ne_true
    have holds := steady.holds
    rw [durable] at holds
    exact holds.openAt later
  · intro outcome idle now valid faults after
    constructor
    · intro ran
      have asked : Call.checkDirty.isRequest = true := rfl
      have delivered : Delivered (usage.ask .checkDirty now) := by
        rintro (⟨⟨⟩⟩ | ⟨⟨⟩⟩)
      obtain ⟨finished, outcome', ran', ended, steady', delivered⟩ :=
        exists_run opened.apart faults (steady_ask steady idle asked valid) delivered rfl
      cases ran'.symm.trans ran
      have kept := entries_run faults .checkDirty (usage.store.atTime now) rfl
      rw [ran] at kept
      have holds := steady'.holds
      rw [delivered (.inr ended)] at holds
      exact ⟨kept, holds.openAt later⟩
    · intro request failure asked ran
      obtain rfl := steady.path_eq
      have apart : Apart (usage.store.atTime now).path := opened.apart
      obtain ⟨same, kept⟩ := state_file_of_run apart faults ran
      exact ⟨same, usage.durable, steady.holds.openAt later,
        (kept usage.durable steady.holds).openAt later⟩

/-- A fresh store after a call that could not create the temporary file. -/
def behind : Usage :=
  ((((((Usage.start fresh).ask (.update (.set "key" "text")) ⟨1, 0⟩).step none).step none).step
    none).step (some ⟨.deviceFailed, 0⟩)).step none |>.step none

theorem used_behind : Used fresh behind :=
  .step (.step (.step (.step (.step (.step
    (.ask .start rfl rfl ⟨by decide +kernel, by decide, by decide⟩) none) none) none) _) none) none

/-- What failed to be written is on the disk after a flush, unless that fails as well. -/
theorem flush_of_behind :
    let flushed := run (fun _ => none) .checkDirty (behind.store.atTime ⟨1, 0⟩)
    let failed := run noTemp .checkDirty (behind.store.atTime ⟨1, 0⟩)
    (openAt fresh.disk "state.json" ⟨2, 0⟩).2 =
        .ok ⟨"state.json", fresh.disk, [], false, ⟨2, 0⟩⟩ ∧
      (flushed.1 = .ok () ∧ (openAt flushed.2.disk "state.json" ⟨2, 0⟩).2 =
        .ok ⟨"state.json", flushed.2.disk, [("key", ⟨"text", ⟨1, 0⟩⟩)], false, ⟨2, 0⟩⟩) ∧
      failed.1.toOption = none ∧
        failed.2.disk.found? "state.json" = behind.store.disk.found? "state.json" := by
  intro flushed failed
  have valid : Moment.IsValid ⟨1, 0⟩ := ⟨by decide +kernel, by decide, by decide⟩
  have clean := clean_stores_are_durable opened_fresh .start ⟨2, 0⟩
  have dirty := clean_stores_are_durable opened_fresh used_behind ⟨2, 0⟩
  refine ⟨congrArg Prod.snd (clean.1 rfl rfl), ?_, ?_⟩
  · have written : flushed.1 = .ok () := Disk.toOption_eq_some.mp (by decide +kernel)
    have entries : behind.store.entries = [("key", ⟨"text", ⟨1, 0⟩⟩)] := by decide +kernel
    obtain ⟨kept, opens⟩ :=
      (dirty.2 _ rfl ⟨1, 0⟩ valid (fun _ => none) _).1 (Prod.ext written rfl)
    rw [kept, entries] at opens
    exact ⟨written, congrArg Prod.snd opens⟩
  · have none : failed.1.toOption = none := by decide +kernel
    cases ended : failed.1 with
    | ok done =>
        rw [ended] at none
        cases none
    | error failure =>
        have same := (dirty.2 _ rfl ⟨1, 0⟩ valid noTemp _).2 .checkDirty failure rfl
          (Prod.ext ended rfl)
        exact ⟨rfl, same.1⟩

end ProbeWatch.FileStore
