import ProbeWatch.Proofs.Store.Faithful
import ProbeWatch.Proofs.Store.Writing

/-!
# One call after another

A store is used by one call after another, under faults of the disk.  At every step of every call the
state file holds the entries that were in memory when a move to it was last completed, so that is
what a store finds that is opened after a crash.  A store that is not dirty and not writing has on
disk what it has in memory.
-/

namespace ProbeWatch.FileStore

open StateFile (StoredText Sound encode)

/-- Whether a call is as it was asked for. -/
def Call.isRequest : Call → Bool
  | .update _ | .checkDirty => true
  | _ => false

/-- Whether a step of a call completes the move to the state file. -/
def hasMoved : Call → Call → Bool
  | .moveTemp, .release (.ok ()) => true
  | _, _ => false

/-- The store at another moment. -/
def atTime (store : FileStore) (now : Moment) : FileStore := { store with now := now }

/-- A store that is used by one call after another. -/
structure Usage where
  /-- The store. -/
  store : FileStore
  /-- What is left of the call that is on its way. -/
  call : Call
  /-- The entries in memory before that call. -/
  former : Dict StoredText
  /-- The entries in memory when a move to the state file was last completed, or those that the
  store was opened with. -/
  durable : Dict StoredText
  /-- Whether every earlier call returned without a failure. -/
  smooth : Bool

namespace Usage

/-- The store as it was opened. -/
def start (store : FileStore) : Usage := ⟨store, .done (.ok ()), store.entries, store.entries, true⟩

/-- One step of the call that is on its way.  A fault leaves the disk as a crash does in the middle
of the step. -/
def step (usage : Usage) (fault : Option Fault) : Usage :=
  let next := usage.store.step fault usage.call
  { usage with
    store := next.2
    call := next.1
    durable := if hasMoved usage.call next.1 then next.2.entries else usage.durable }

/-- The next call, at a moment that the clock shows. -/
def ask (usage : Usage) (request : Call) (now : Moment) : Usage :=
  { store := usage.store.atTime now
    call := request
    former := usage.store.entries
    durable := usage.durable
    smooth := usage.smooth && usage.call.outcome.isOk }

end Usage

/-- The states of a store from its opening on, at every step of calls that are made one after
another. -/
inductive Used (store : FileStore) : Usage → Prop
  | start : Used store (.start store)
  | ask {usage : Usage} (used : Used store usage) {outcome : Except Failure Unit}
      (idle : usage.call = .done outcome) {request : Call} (asked : request.isRequest = true)
      {now : Moment} (valid : now.IsValid) : Used store (usage.ask request now)
  | step {usage : Usage} (used : Used store usage) (fault : Option Fault) :
      Used store (usage.step fault)

/-! ## What every step preserves -/

/-- Whether the state file holds what was last moved there, and the text that is on its way is that
of the entries in memory. -/
structure Steady (path : String) (usage : Usage) : Prop where
  path_eq : usage.store.path = path
  valid : usage.store.now.IsValid
  sound : Sound usage.store.entries
  holds : Holds path usage.store.disk usage.durable
  carries : Carries usage.store.entries usage.store usage.call
  /-- A store that is not dirty holds what is on the disk, unless it is writing. -/
  clean : usage.store.dirty = false →
    usage.durable = usage.store.entries ∨ usage.call.isWriting = true

theorem hasMoved_eq_false {call next : Call} (isn't : next ≠ .release (.ok ())) :
    hasMoved call next = false := by
  rw [hasMoved.eq_def]
  split
  · exact absurd rfl isn't
  · rfl

theorem carries_of_isRequest (entries : Dict StoredText) (store : FileStore) {request : Call}
    (asked : request.isRequest = true) : Carries entries store request := by
  cases request with
  | update | checkDirty => exact trivial
  | _ => cases asked

theorem steady_start {disk : Disk} {path : String} {store : FileStore}
    (opened : OpenedOn disk path store) : Steady path (.start store) := by
  obtain ⟨holds, path_eq, -⟩ := opened.spec
  exact ⟨path_eq, opened.valid, holds.sound, holds, trivial, fun _ => .inl rfl⟩

theorem steady_ask {path : String} {usage : Usage} (steady : Steady path usage)
    {outcome : Except Failure Unit} (idle : usage.call = .done outcome) {request : Call}
    (asked : request.isRequest = true) {now : Moment} (valid : now.IsValid) :
    Steady path (usage.ask request now) where
  path_eq := steady.path_eq
  valid := valid
  sound := steady.sound
  holds := steady.holds
  carries := carries_of_isRequest _ _ asked
  clean still := by
    refine .inl ((steady.clean still).resolve_right ?_)
    rw [idle]
    exact Bool.false_ne_true

theorem steady_step {path : String} (apart : Apart path) {usage : Usage}
    (steady : Steady path usage) (fault : Option Fault) : Steady path (usage.step fault) := by
  obtain ⟨store, call, former, durable, smooth⟩ := usage
  obtain ⟨rfl, valid, sound, holds, carries, clean⟩ := steady
  dsimp only at valid sound holds carries clean apart ⊢
  have effect := effect_step store fault call
  have writes := writes_step apart sound holds fault carries
  have carries := carries_entries_step apart fault carries
  rw [Usage.step]
  dsimp only
  generalize store.step fault call = next at effect writes carries
  obtain ⟨next, after⟩ := next
  dsimp only at effect writes carries ⊢
  obtain ⟨path_eq, now_eq⟩ := effect.path_now
  refine ⟨path_eq, now_eq ▸ valid, effect.sound sound valid, ?_, carries, ?_⟩
  · cases writes with
    | moved was is holds =>
        subst was is
        rw [← effect.entries (by rintro _ ⟨⟩)] at holds
        exact holds
    | kept isn't holds _ =>
        rw [hasMoved_eq_false isn't]
        exact holds
  · intro still
    cases effect with
    | changed made =>
        rw [eq_of_change? made] at still
        cases still
    | behind dirty =>
        rw [dirty] at still
        cases still
    | captured => exact .inr rfl
    | used was is disk => exact .inr is
    | moved disk => exact .inl rfl
    | failed failure => cases still
    | _ => exact .inl ((clean still).resolve_right Bool.false_ne_true)

/-- Every state of a store that was opened on a sound state file is steady. -/
theorem steady_of_used {disk : Disk} {path : String} {store : FileStore}
    (opened : OpenedOn disk path store) {usage : Usage} (used : Used store usage) :
    Steady path usage := by
  induction used with
  | start => exact steady_start opened
  | ask used idle asked valid ih => exact steady_ask ih idle asked valid
  | step used fault ih => exact steady_step opened.apart ih fault

/-! ## Crashes -/

/-- What is on the disk while every earlier call has returned without a failure: the entries of before
the call, until the call has moved its text there. -/
def AtomicCall (usage : Usage) : Prop :=
  match usage.call with
  | .update _ | .checkDirty => usage.durable = usage.former ∧ usage.store.entries = usage.former
  | .release (.ok ()) | .done (.ok ()) => usage.durable = usage.store.entries
  | _ => usage.durable = usage.former

theorem atomicCall_iff_of_isWriting (usage : Usage) (writing : usage.call.isWriting = true) :
    AtomicCall usage ↔ usage.durable = usage.former := by
  obtain ⟨store, call, former, durable, smooth⟩ := usage
  cases call with
  | createTemp | writeTemp | flushTemp | backUp | moveTemp | markDirty => exact Iff.rfl
  | _ => cases writing

theorem atomicCall_step {usage : Usage} (atomic : AtomicCall usage) (fault : Option Fault) :
    AtomicCall (usage.step fault) := by
  obtain ⟨store, call, former, durable, smooth⟩ := usage
  have effect := effect_step store fault call
  rw [Usage.step]
  dsimp only
  generalize store.step fault call = next at effect
  obtain ⟨next, after⟩ := next
  dsimp only at effect ⊢
  cases effect with
  | changed made => exact atomic.1
  | skipped absent => exact atomic.1.trans atomic.2.symm
  | behind dirty => exact atomic.1
  | clean still => exact atomic.1.trans atomic.2.symm
  | locked => exact atomic
  | captured => exact atomic
  | used was is disk =>
      have other : next ≠ .release (.ok ()) := by
        rintro rfl
        cases is
      have before := (atomicCall_iff_of_isWriting _ (Call.isWriting_of_hasText was)).mp atomic
      rw [hasMoved_eq_false other]
      exact (atomicCall_iff_of_isWriting _ is).mpr before
  | moved disk => rfl
  | failed failure => exact atomic
  | released outcome =>
      cases outcome with
      | ok done => exact atomic
      | error failure => exact atomic
  | ended outcome => exact atomic

theorem atomicCall_of_used {store : FileStore} {usage : Usage} (used : Used store usage) :
    usage.smooth = true → AtomicCall usage := by
  induction used with
  | start => exact fun _ => rfl
  | @ask usage used outcome idle request asked now valid ih =>
      intro smooth
      rw [Usage.ask, Bool.and_eq_true] at smooth
      have ended := ih smooth.1
      have returned := smooth.2
      rw [AtomicCall, idle] at ended
      rw [idle, Call.outcome] at returned
      have kept : usage.durable = usage.store.entries := by
        cases outcome with
        | ok done => exact ended
        | error failure => cases returned
      cases request with
      | update change => exact ⟨kept, rfl⟩
      | checkDirty => exact ⟨kept, rfl⟩
      | _ => cases asked
  | step used fault ih => exact fun smooth => atomicCall_step (ih smooth) fault

/-- At every step of every call, also in the middle of one that a crash cuts off there, the state file
opens and holds the entries that were in memory when a move to it was last completed.  As long as no
earlier call has failed, these are the entries of before the call or those of after it. -/
theorem openAt_after_crash {disk : Disk} {path : String} {store : FileStore}
    (opened : OpenedOn disk path store) {usage : Usage} (used : Used store usage) (now : Moment) :
    openAt usage.store.disk path now =
        (usage.store.disk, .ok ⟨path, usage.store.disk, usage.durable, false, now⟩) ∧
      (usage.smooth = true →
        usage.durable = usage.former ∨ usage.durable = usage.store.entries) := by
  refine ⟨(steady_of_used opened used).holds.openAt now, fun smooth => ?_⟩
  have atomic := atomicCall_of_used used smooth
  rw [AtomicCall] at atomic
  split at atomic
  · exact .inl atomic.1
  · exact .inl atomic.1
  · exact .inr atomic
  · exact .inr atomic
  · exact .inl atomic

/-- A store that is opened after a crash is one to which all of this applies again. -/
theorem OpenedOn.again {disk : Disk} {path : String} {store : FileStore}
    (opened : OpenedOn disk path store) {usage : Usage} (used : Used store usage) {now : Moment}
    (valid : now.IsValid) :
    OpenedOn usage.store.disk path ⟨path, usage.store.disk, usage.durable, false, now⟩ := by
  have holds := (steady_of_used opened used).holds
  refine ⟨opened.apart, ⟨usage.durable, ?_⟩, holds.openAt now, valid⟩
  rw [holds.room, holds.load]

/-- A store that was opened on a disk on which there is nothing. -/
def fresh : FileStore := ⟨"state.json", .empty, [], false, ⟨0, 0⟩⟩

theorem opened_fresh : OpenedOn .empty "state.json" fresh := by
  have room : makeRoom .empty "state.json" = (.empty, .ok ()) := by
    have parent : Path.parent? "state.json" = some "" := by decide +kernel
    rw [makeRoom, parent]
    rfl
  have absent : Disk.empty.leadsSomewhere "state.json" = false := by decide +kernel
  have loaded : load .empty "state.json" = .ok (some []) := by
    rw [load, absent]
    rfl
  have holds : Holds "state.json" .empty [] := ⟨room, loaded⟩
  refine ⟨by decide +kernel, ⟨[], ?_⟩, holds.openAt _, by decide +kernel, by decide, by decide⟩
  rw [room, loaded]

/-- The first call of a fresh store, in the middle of writing its temporary file. -/
def cutOff : Usage :=
  ((((((Usage.start fresh).ask (.update (.set "key" "text")) ⟨1, 0⟩).step none).step none).step
    none).step none).step (some ⟨.deviceFailed, 3⟩)

theorem used_cutOff : Used fresh cutOff :=
  .step (.step (.step (.step (.step
    (.ask .start rfl rfl ⟨by decide +kernel, by decide, by decide⟩) none) none) none) none) _

theorem openAt_after_cut_off_write :
    (cutOff.store.disk.readText "state.tmp").toOption = some "\x7b\n " ∧
      openAt cutOff.store.disk "state.json" ⟨2, 0⟩ =
        (cutOff.store.disk, .ok ⟨"state.json", cutOff.store.disk, [], false, ⟨2, 0⟩⟩) := by
  have nothing : cutOff.durable = [] := by decide +kernel
  refine ⟨by decide +kernel, ?_⟩
  rw [← nothing]
  exact (openAt_after_crash opened_fresh used_cutOff ⟨2, 0⟩).1

/-! ## Acknowledged changes -/

/-- Whether a call that has written has brought the entries in memory to the disk. -/
def Delivered (usage : Usage) : Prop :=
  usage.call = .release (.ok ()) ∨ usage.call = .done (.ok ()) →
    usage.durable = usage.store.entries

theorem delivered_step {usage : Usage} (delivered : Delivered usage)
    (clean : usage.store.dirty = false →
      usage.durable = usage.store.entries ∨ usage.call.isWriting = true)
    (quiet : usage.call.changes = false) (fault : Option Fault) : Delivered (usage.step fault) := by
  obtain ⟨store, call, former, durable, smooth⟩ := usage
  have effect := effect_step store fault call
  rw [Usage.step]
  dsimp only at clean quiet ⊢
  generalize store.step fault call = next at effect
  obtain ⟨next, after⟩ := next
  dsimp only at effect ⊢
  intro ended
  dsimp only at ended
  cases effect with
  | changed made => cases quiet
  | skipped absent => cases quiet
  | behind dirty => simp at ended
  | clean still => exact (clean still).resolve_right Bool.false_ne_true
  | locked => simp at ended
  | captured => simp at ended
  | used was is disk => rcases ended with rfl | rfl <;> cases is
  | moved disk => rfl
  | failed failure => simp at ended
  | released outcome =>
      refine delivered (.inl ?_)
      simpa using ended
  | ended outcome =>
      refine delivered (.inr ?_)
      simpa using ended

theorem exists_run {path : String} (apart : Apart path) (faults : Nat → Option Fault)
    {usage : Usage} (steady : Steady path usage) (delivered : Delivered usage)
    (quiet : usage.call.changes = false) :
    ∃ finished outcome, run faults usage.call usage.store = (outcome, finished.store) ∧
      finished.call = .done outcome ∧ Steady path finished ∧ Delivered finished := by
  induction rank : usage.call.rank using Nat.strongRecOn generalizing usage with
  | _ rank ih =>
      rw [run]
      split
      · obtain ⟨store, call, former, durable, smooth⟩ := usage
        cases call with
        | done outcome => exact ⟨_, outcome, rfl, rfl, steady, delivered⟩
        | _ => contradiction
      · rename_i unfinished
        subst rank
        have fewer := rank_step_lt usage.store (faults usage.call.rank) usage.call unfinished
        have quiet' := (step_of_not_changes usage.store (faults usage.call.rank) quiet).1
        exact ih _ fewer (steady_step apart steady _) (delivered_step delivered steady.clean quiet _)
          quiet' rfl

theorem run_of_rank_ne_zero (faults : Nat → Option Fault) {call : Call} (going : call.rank ≠ 0)
    (store : FileStore) :
    run faults call store =
      run faults (store.step (faults call.rank) call).1 (store.step (faults call.rank) call).2 := by
  rw [run]
  exact dif_neg going

theorem run_update (faults : Nat → Option Fault) (change : Change) (store : FileStore) :
    run faults (.update change) store =
      run faults (store.step (faults 10) (.update change)).1
        (store.step (faults 10) (.update change)).2 := by
  have going : (Call.update change).rank ≠ 0 := Nat.succ_ne_zero 9
  exact run_of_rank_ne_zero faults going store

/-- A change that is made in memory and returns without a failure is on the disk. -/
theorem holds_of_run_update {path : String} (apart : Apart path) {usage : Usage}
    (steady : Steady path usage) {outcome : Except Failure Unit} (idle : usage.call = .done outcome)
    {now : Moment} (valid : now.IsValid) {change : Change} {changed after : FileStore}
    (made : (usage.store.atTime now).change? change = some changed)
    {faults : Nat → Option Fault}
    (ran : run faults (.update change) (usage.store.atTime now) = (.ok (), after)) :
    Holds path after.disk (amend usage.store.entries now change) := by
  have asked : (Call.update change).isRequest = true := rfl
  have steady' := steady_step apart (steady_ask steady idle asked valid) (faults 10)
  have stepped : (usage.store.atTime now).step (faults 10) (.update change) =
      (.acquire, changed) := by
    rw [step, made]
  have next : (usage.ask (.update change) now).step (faults 10) =
      { usage.ask (.update change) now with store := changed, call := .acquire } := by
    rw [Usage.step, Usage.ask, stepped]
    rfl
  rw [next] at steady'
  have delivered :
      Delivered { usage.ask (.update change) now with store := changed, call := .acquire } :=
    fun ended => by simp at ended
  obtain ⟨finished, outcome, ran', ended, steady', delivered⟩ :=
    exists_run apart faults steady' delivered rfl
  have kept := entries_run faults .acquire changed rfl
  rw [run_update, stepped] at ran
  rw [ran, eq_of_change? made] at kept
  cases ran'.symm.trans ran
  have holds := steady'.holds
  rw [delivered (.inr ended), kept] at holds
  exact holds

theorem run_of_change?_eq_none {store : FileStore} {change : Change}
    (absent : store.change? change = none) (faults : Nat → Option Fault) :
    run faults (.update change) store = (.ok (), store) := by
  have stepped : store.step (faults 10) (.update change) = (.done (.ok ()), store) := by
    rw [step, absent]
  rw [run_update, stepped, run]
  rfl

/-- Acknowledged changes are on the disk, also after calls that failed: what was set is found by a
store that is opened then, and what was removed is not, if the removed key was in memory or the store
was not dirty. -/
theorem acknowledged_changes_are_durable {disk : Disk} {path : String} {store : FileStore}
    (opened : OpenedOn disk path store) {usage : Usage} (used : Used store usage)
    {outcome : Except Failure Unit} (idle : usage.call = .done outcome) {now : Moment}
    (valid : now.IsValid) (faults : Nat → Option Fault) (after : FileStore) (later : Moment) :
    (∀ key value, run faults (.update (.set key value)) (usage.store.atTime now) =
        (.ok (), after) →
      ∃ reopened, (openAt after.disk path later).2 = .ok reopened ∧
        reopened.get key = some value) ∧
    (∀ key, run faults (.update (.remove key)) (usage.store.atTime now) = (.ok (), after) →
      Dict.contains key usage.store.entries = true ∨ usage.store.dirty = false →
      ∃ reopened, (openAt after.disk path later).2 = .ok reopened ∧ reopened.get key = none) := by
  have steady := steady_of_used opened used
  constructor
  · intro key value ran
    have holds := holds_of_run_update opened.apart steady idle valid rfl ran
    refine ⟨_, congrArg Prod.snd (holds.openAt later), ?_⟩
    rw [get, amend, Dict.get?_insert_self, Option.map_some]
  · intro key ran owed
    by_cases held : Dict.contains key usage.store.entries = true
    · have made : (usage.store.atTime now).change? (.remove key) = some _ := if_pos held
      have holds := holds_of_run_update opened.apart steady idle valid made ran
      refine ⟨_, congrArg Prod.snd (holds.openAt later), ?_⟩
      rw [get, amend, Dict.get?_erase_self, Option.map_none]
    · have still := owed.resolve_left held
      have durable : usage.durable = usage.store.entries := by
        refine (steady.clean still).resolve_right ?_
        rw [idle]
        exact Bool.false_ne_true
      have absent : (usage.store.atTime now).change? (.remove key) = none := if_neg held
      rw [run_of_change?_eq_none absent] at ran
      cases ran
      have holds := steady.holds
      rw [durable] at holds
      refine ⟨_, congrArg Prod.snd (holds.openAt later), ?_⟩
      rw [get, Option.map_eq_none_iff]
      simpa [Dict.contains] using held

theorem Used.repeat {store : FileStore} {usage : Usage} (used : Used store usage) (count : Nat) :
    Used store (Nat.repeat (·.step none) count usage) := by
  induction count with
  | zero => exact used
  | succ count ih => exact .step ih none

/-- A fresh store after its first call, which took nine steps. -/
def written : Usage :=
  Nat.repeat (·.step none) 9 ((Usage.start fresh).ask (.update (.set "key" "text")) ⟨1, 0⟩)

theorem used_written : Used fresh written :=
  .repeat (.ask .start rfl rfl ⟨by decide +kernel, by decide, by decide⟩) 9

/-- A text that is set is found again, and once it was removed it is not. -/
theorem changes_of_fresh_store_are_durable :
    (∃ reopened, (openAt (fresh.set "key" "text").1.disk "state.json" ⟨2, 0⟩).2 = .ok reopened ∧
        reopened.get "key" = some "text") ∧
      written.store.get "key" = some "text" ∧
      ∃ reopened,
        (openAt ((written.store.atTime ⟨1, 0⟩).remove "key").1.disk "state.json" ⟨2, 0⟩).2 =
            .ok reopened ∧
          reopened.get "key" = none := by
  have valid : Moment.IsValid ⟨1, 0⟩ := ⟨by decide +kernel, by decide, by decide⟩
  have set : (run (fun _ => none) (.update (.set "key" "text")) fresh).1 = .ok () :=
    Disk.toOption_eq_some.mp (by decide +kernel)
  have removed :
      (run (fun _ => none) (.update (.remove "key")) (written.store.atTime ⟨1, 0⟩)).1 = .ok () :=
    Disk.toOption_eq_some.mp (by decide +kernel)
  have durable {usage : Usage} (used : Used fresh usage) {outcome : Except Failure Unit}
      (idle : usage.call = .done outcome) (now : Moment) (valid : now.IsValid) (after : FileStore) :=
    acknowledged_changes_are_durable opened_fresh used idle valid (fun _ => none) after ⟨2, 0⟩
  have first := durable .start rfl ⟨0, 0⟩ opened_fresh.valid
  have second := durable used_written rfl ⟨1, 0⟩ valid
  exact ⟨(first _).1 "key" "text" (Prod.ext set rfl), by decide +kernel,
    (second _).2 "key" (Prod.ext removed rfl) (.inl (by decide +kernel))⟩

/-- The faults of a disk on which no temporary file can be created. -/
def noTemp (rank : Nat) : Option Fault :=
  if rank = (Call.createTemp "").rank then some ⟨.deviceFailed, 0⟩ else none

/-- A removal that fails leaves the memory ahead of the disk.  The same removal then succeeds without
writing, as there is nothing to be removed from memory, and the text is found again. -/
theorem acknowledged_removal_comes_back :
    OpenedOn .empty "state.json" fresh ∧
      let stored := fresh.set "key" "text"
      let failed := run noTemp (.update (.remove "key")) stored.1
      let removed := failed.2.remove "key"
      stored.2 = .ok () ∧ failed.1.toOption = none ∧ removed.2 = .ok () ∧
        ((openAt removed.1.disk "state.json" ⟨2, 0⟩).2.toOption.bind fun reopened =>
          reopened.get "key") = some "text" :=
  ⟨opened_fresh, Disk.toOption_eq_some.mp (by decide +kernel), by decide +kernel,
    Disk.toOption_eq_some.mp (by decide +kernel), by decide +kernel⟩

end ProbeWatch.FileStore
