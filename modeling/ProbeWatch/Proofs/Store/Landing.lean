import Mathlib.Data.List.Nodup
import ProbeWatch.Proofs.Store.Traffic

/-!
# Changes that all land

Any number of changes of one store, by calls whose steps interleave in any order while no operation
on the disk fails.  Once all calls have returned, nothing is left to be written, and the state file
holds what the same calls leave behind one after another, in the order in which they changed the
entries in memory.
-/

namespace ProbeWatch.FileStore

/-! ## Calls that meet no failure -/

/-- A change that a call made in memory. -/
structure Update where
  /-- The position of the call. -/
  position : Nat
  change : Change
  /-- The moment at which it was made. -/
  moment : Moment
deriving DecidableEq

/-- The change that the next step of the call at a position makes in memory, also where it finds
nothing to remove. -/
def updatesOf (store : FileStore) (position : Nat) : Call → List Update
  | .update change => [⟨position, change, store.now⟩]
  | _ => []

/-- Whether an operation on the disk has just failed under a call. -/
def Call.isFailing : Call → Bool
  | .markDirty _ => true
  | _ => false

/-- The states of a store under calls of changes that overlap and meet no failure: what the calls ask
for, by their positions, and the changes made in memory so far, in their order.  The making of
a backup is the one operation that may fail, as its call goes on in any case. -/
inductive Calm (store : FileStore) : List Change → List Update → Traffic → Prop
  | start : Calm store [] [] (.start store)
  | ask {asked : List Change} {order : List Update} {traffic : Traffic}
      (calm : Calm store asked order traffic) (change : Change) :
      Calm store (asked ++ [change]) order (traffic.ask (.update change))
  | tick {asked : List Change} {order : List Update} {traffic : Traffic}
      (calm : Calm store asked order traffic) {now : Moment} (valid : now.IsValid) :
      Calm store asked order { traffic with store := traffic.store.atTime now }
  | step {asked : List Change} {order : List Update} {traffic : Traffic}
      (calm : Calm store asked order traffic) (fault : Option Fault) {position : Nat} {call : Call}
      (found : traffic.calls[position]? = some call)
      (free : call = .acquire → ∀ other ∈ traffic.calls, other.holdsLock = false)
      (succeeds : (traffic.store.step fault call).1.isFailing = false) :
      Calm store asked (order ++ updatesOf traffic.store position call)
        (traffic.advance position call fault)

/-- The store after calls that are made one after another, each at its moment. -/
def inTurn (store : FileStore) (updates : List Update) : FileStore :=
  updates.foldl (fun store update => ((store.atTime update.moment).apply (.update update.change)).1)
    store

/-! ## What single steps do -/

/-- Whether a call has met no failure so far. -/
def Call.isSmooth : Call → Bool
  | .markDirty _ | .release (.error _) | .done (.error _) => false
  | _ => true

/-- Whether a call is still to take its text from memory, after its own change. -/
def Call.isOwing : Call → Bool
  | .acquire | .capture => true
  | _ => false

theorem updatesOf_of_not_changes {call : Call} (quiet : call.changes = false) (store : FileStore)
    (position : Nat) : updatesOf store position call = [] := by
  cases call with
  | update change => cases quiet
  | _ => rfl

theorem Effect.isSmooth {store after : FileStore} {call next : Call}
    (effect : Effect store after call next) (smooth : call.isSmooth = true)
    (succeeds : next.isFailing = false) : next.isSmooth = true := by
  cases effect with
  | used was is disk =>
      cases next with
      | createTemp | writeTemp | flushTemp | backUp | moveTemp => rfl
      | markDirty failure => cases succeeds
      | _ => cases is
  | failed failure => cases smooth
  | released outcome =>
      cases outcome with
      | ok done => rfl
      | error failure => cases smooth
  | ended outcome => exact smooth
  | _ => rfl

/-- A store that is dirty after a step was dirty before, or the call of the step owes it a text. -/
theorem Effect.isOwing {store after : FileStore} {call next : Call}
    (effect : Effect store after call next) (smooth : call.isSmooth = true)
    (dirty : after.dirty = true) :
    next.isOwing = true ∨ store.dirty = true ∧ call.isOwing = false := by
  cases effect with
  | changed | behind | locked => exact .inl rfl
  | captured => cases dirty
  | used was is disk =>
      refine .inr ⟨dirty, ?_⟩
      cases call with
      | createTemp | writeTemp | flushTemp | backUp | moveTemp => rfl
      | _ => cases was
  | failed failure => cases smooth
  | _ => exact .inr ⟨dirty, rfl⟩

theorem changes_step (store : FileStore) (fault : Option Fault) (call : Call) :
    (store.step fault call).1.changes = false := by
  have effect := effect_step store fault call
  generalize store.step fault call = next at effect
  obtain ⟨next, after⟩ := next
  dsimp only at effect ⊢
  cases effect with
  | used was is disk =>
      cases next with
      | update change => cases is
      | _ => rfl
  | _ => rfl

/-- What a change does to the entries depends on the entries and the moment alone. -/
theorem entries_step_congr {store other : FileStore} (entries : store.entries = other.entries)
    (now : store.now = other.now) (fault fault' : Option Fault) (change : Change) :
    (store.step fault (.update change)).2.entries =
      (other.step fault' (.update change)).2.entries := by
  cases change with
  | set key value =>
      change Dict.insert key ⟨value, store.now⟩ store.entries = Dict.insert key ⟨value, other.now⟩ _
      rw [entries, now]
  | remove key =>
      simp only [step, change?, entries]
      by_cases held : Dict.contains key other.entries = true
      · simp only [if_pos held]
      · simp only [if_neg held]
        exact entries

theorem entries_apply (store : FileStore) (change : Change) :
    (store.apply (.update change)).1.entries = (store.step none (.update change)).2.entries := by
  change (run _ (.update change) store).2.entries = _
  rw [run_update]
  exact entries_run _ _ _ (changes_step store none (.update change))

/-! ## What every run preserves -/

namespace Calm

variable {store : FileStore} {asked : List Change} {order : List Update} {traffic : Traffic}

theorem turns (calm : Calm store asked order traffic) :
    Traffic.Turns (.start store) traffic := by
  induction calm with
  | start => exact .refl
  | ask _ change ih => exact ih.tail (.ask _ rfl)
  | tick _ valid ih => exact ih.tail (.tick _ valid)
  | step _ fault found free _ ih => exact ih.tail (.step _ fault found free)

theorem isSmooth (calm : Calm store asked order traffic) :
    ∀ call ∈ traffic.calls, call.isSmooth = true := by
  induction calm with
  | start => exact fun call found => absurd found List.not_mem_nil
  | ask _ change ih =>
      intro call found
      rcases List.mem_append.mp found with old | new
      · exact ih call old
      · rw [List.mem_singleton.mp new]
        rfl
  | tick _ valid ih => exact ih
  | @step _ _ traffic _ fault position call found free succeeds ih =>
      intro other among
      rcases List.mem_or_eq_of_mem_set among with old | rfl
      · exact ih other old
      · exact (effect_step traffic.store fault call).isSmooth
          (ih call (List.mem_of_getElem? found)) succeeds

theorem exists_isOwing (calm : Calm store asked order traffic) (clean : store.dirty = false) :
    traffic.store.dirty = true →
      ∃ (position : Nat) (call : Call), traffic.calls[position]? = some call ∧
        call.isOwing = true := by
  induction calm with
  | start =>
      intro dirty
      cases clean.symm.trans dirty
  | ask _ change ih =>
      intro dirty
      obtain ⟨position, call, found, owing⟩ := ih dirty
      exact ⟨position, call, Traffic.getElem?_ask_of_found found _, owing⟩
  | tick _ valid ih => exact ih
  | @step _ _ traffic calm fault position call found free succeeds ih =>
      intro dirty
      have smooth := calm.isSmooth call (List.mem_of_getElem? found)
      have same := Traffic.getElem?_set found (traffic.store.step fault call).1
      rcases (effect_step traffic.store fault call).isOwing smooth dirty with owing | ⟨before, quiet⟩
      · exact ⟨position, _, (same position).trans (if_pos rfl), owing⟩
      · obtain ⟨other, owed, found', owing⟩ := ih before
        have different : position ≠ other := by
          rintro rfl
          cases found.symm.trans found'
          rw [quiet] at owing
          cases owing
        exact ⟨other, owed, (same other).trans ((if_neg different).trans found'), owing⟩

/-- The entries in memory are those of the same calls one after another. -/
theorem entries_eq (calm : Calm store asked order traffic) :
    traffic.store.entries = (inTurn store order).entries := by
  induction calm with
  | start => rfl
  | ask _ change ih => exact ih
  | tick _ valid ih => exact ih
  | @step _ order traffic _ fault position call found free succeeds ih =>
      have kept := (effect_step traffic.store fault call).entries
      cases call with
      | update change =>
          have same : traffic.store.entries =
              ((inTurn store order).atTime traffic.store.now).entries := ih
          rw [updatesOf, inTurn, List.foldl_append]
          exact (entries_step_congr same rfl fault none change).trans (entries_apply _ change).symm
      | _ =>
          rw [updatesOf_of_not_changes rfl, List.append_nil]
          exact (kept (by rintro _ ⟨⟩)).trans ih

end Calm

/-- Whether every call is either still to make the change that it asks for or has made it once. -/
structure Accounted (asked : List Change) (order : List Update) (calls : List Call) : Prop where
  length_eq : calls.length = asked.length
  /-- A call that is still to make a change was asked for it. -/
  pending : ∀ (position : Nat) (change : Change), calls[position]? = some (.update change) →
    asked[position]? = some change
  /-- Every change that was made was asked for. -/
  made : ∀ update ∈ order, asked[update.position]? = some update.change
  nodup : (order.map Update.position).Nodup
  mem_order : ∀ position, position ∈ order.map Update.position ↔
    ∃ call, calls[position]? = some call ∧ call.changes = false

namespace Accounted

variable {asked : List Change} {order : List Update} {calls : List Call}

theorem ask (accounted : Accounted asked order calls) (change : Change) :
    Accounted (asked ++ [change]) order (calls ++ [.update change]) where
  length_eq := by
    rw [List.length_append, List.length_append, accounted.length_eq]
    rfl
  pending := by
    intro position other found
    rw [List.getElem?_append] at found ⊢
    rw [accounted.length_eq] at found
    split at found
    · rename_i inside
      rw [if_pos inside]
      exact accounted.pending position other found
    · rename_i outside
      rw [if_neg outside]
      rw [List.getElem?_singleton] at found ⊢
      split at found
      · rename_i last
        rw [if_pos last]
        cases found
        rfl
      · cases found
  made update member := by
    have found := accounted.made update member
    have inside := (List.getElem?_eq_some_iff.mp found).1
    rw [List.getElem?_append_left inside, found]
  nodup := accounted.nodup
  mem_order position := by
    rw [accounted.mem_order, List.getElem?_append]
    split
    · rfl
    · rename_i outside
      rw [List.getElem?_eq_none (Nat.le_of_not_lt outside), List.getElem?_singleton]
      split
      · simp [Call.changes]
      · simp

theorem keep (accounted : Accounted asked order calls) {position : Nat} {call next : Call}
    (found : calls[position]? = some call) (quiet : call.changes = false)
    (quiet' : next.changes = false) : Accounted asked order (calls.set position next) where
  length_eq := List.length_set.trans accounted.length_eq
  pending := by
    intro other change found'
    rw [Traffic.getElem?_set found] at found'
    split at found'
    · cases found'
      cases quiet'
    · exact accounted.pending other change found'
  made := accounted.made
  nodup := accounted.nodup
  mem_order other := by
    rw [accounted.mem_order, Traffic.getElem?_set found]
    split
    · rename_i same
      subst same
      rw [found]
      simp [quiet, quiet']
    · rfl

theorem make (accounted : Accounted asked order calls) {position : Nat} {change : Change}
    {next : Call} (found : calls[position]? = some (.update change))
    (quiet : next.changes = false) (moment : Moment) :
    Accounted asked (order ++ [⟨position, change, moment⟩]) (calls.set position next) where
  length_eq := List.length_set.trans accounted.length_eq
  pending := by
    intro other change' found'
    rw [Traffic.getElem?_set found] at found'
    split at found'
    · cases found'
      cases quiet
    · exact accounted.pending other change' found'
  made update member := by
    rcases List.mem_append.mp member with old | new
    · exact accounted.made update old
    · rw [List.mem_singleton.mp new]
      exact accounted.pending position change found
  nodup := by
    have unmade : position ∉ order.map Update.position := by
      rw [accounted.mem_order, found]
      rintro ⟨call, same, quiet⟩
      cases same
      cases quiet
    rw [List.map_append]
    exact List.nodup_append.mpr ⟨accounted.nodup, List.nodup_singleton _, by simpa using unmade⟩
  mem_order other := by
    rw [List.map_append, List.mem_append, accounted.mem_order, Traffic.getElem?_set found]
    split
    · rename_i same
      subst same
      simp [quiet]
    · rename_i different
      simp [Ne.symm different]

end Accounted

/-- In every run each call makes its change once. -/
theorem Calm.accounted {store : FileStore} {asked : List Change} {order : List Update}
    {traffic : Traffic} (calm : Calm store asked order traffic) :
    Accounted asked order traffic.calls := by
  induction calm with
  | start =>
      refine ⟨rfl, ?_, fun _ member => absurd member List.not_mem_nil, List.nodup_nil, ?_⟩
      · rintro position change ⟨⟩
      · simp [Traffic.start]
  | ask _ change ih => exact ih.ask change
  | tick _ valid ih => exact ih
  | @step _ _ traffic _ fault position call found free succeeds ih =>
      have next := changes_step traffic.store fault call
      cases call with
      | update change => exact ih.make found next traffic.store.now
      | _ =>
          rw [updatesOf_of_not_changes rfl, List.append_nil]
          exact ih.keep found rfl next

/-! ## When all calls have returned -/

theorem Call.eq_done_of_isSmooth {call : Call} (smooth : call.isSmooth = true)
    (ended : call.rank = 0) : call = .done (.ok ()) := by
  cases call with
  | done outcome =>
      cases outcome with
      | ok done => rfl
      | error failure => cases smooth
  | _ => cases ended

/-- Once all overlapping changes have returned, each without a failure, the store is not dirty, and a
store that is opened on the state file has the entries in memory.  They are those that the calls leave
behind one after another, each of them once, in the order of their changes in memory. -/
theorem overlapping_changes_all_land {disk : Disk} {path : String} {store : FileStore}
    (opened : OpenedOn disk path store) {asked : List Change} {order : List Update}
    {traffic : Traffic} (calm : Calm store asked order traffic)
    (returned : ∀ call ∈ traffic.calls, call.rank = 0) (later : Moment) :
    traffic.calls = List.replicate asked.length (.done (.ok ())) ∧
      traffic.store.dirty = false ∧
      openAt traffic.store.disk path later =
        (traffic.store.disk,
          .ok ⟨path, traffic.store.disk, traffic.store.entries, false, later⟩) ∧
      traffic.store.entries = (inTurn store order).entries ∧
      (order.map Update.position).Perm (List.range asked.length) ∧
      ∀ update ∈ order, asked[update.position]? = some update.change := by
  have accounted := calm.accounted
  have done : ∀ call ∈ traffic.calls, call = .done (.ok ()) := fun call among =>
    Call.eq_done_of_isSmooth (calm.isSmooth call among) (returned call among)
  have idle : ∀ (position : Nat) (call : Call), traffic.calls[position]? = some call →
      call = .done (.ok ()) := fun position call found => done call (List.mem_of_getElem? found)
  have clean : traffic.store.dirty = false := by
    refine Bool.eq_false_iff.mpr fun dirty => ?_
    obtain ⟨position, call, found, owing⟩ := calm.exists_isOwing opened.spec.2.2 dirty
    rw [idle position call found] at owing
    cases owing
  obtain ⟨captured, landed, ledger⟩ := exists_ledger opened calm.turns
  have all : landed = traffic.log.length := by
    refine (ledger.clean clean).resolve_right ?_
    rintro ⟨-, position, call, found, writing⟩
    rw [idle position call found] at writing
    cases writing
  have holds := ledger.holds
  rw [all, List.take_length, ← ledger.memory] at holds
  refine ⟨?_, clean, holds.openAt later, calm.entries_eq, ?_, accounted.made⟩
  · exact List.eq_replicate_iff.mpr ⟨accounted.length_eq, done⟩
  · refine (List.perm_ext_iff_of_nodup accounted.nodup List.nodup_range).mpr fun position => ?_
    rw [accounted.mem_order, List.mem_range, ← accounted.length_eq]
    constructor
    · rintro ⟨call, found, -⟩
      exact (List.getElem?_eq_some_iff.mp found).1
    · intro inside
      have found := List.getElem?_eq_getElem inside
      refine ⟨_, found, ?_⟩
      rw [idle position _ found]
      rfl

/-! ## Schedules -/

/-- Whether the next step of a call takes the lock of the writers. -/
def Call.takesLock : Call → Bool
  | .acquire => true
  | _ => false

/-- Whether a call can take its next step, and no operation on the disk fails under it. -/
def Traffic.mayAdvance (traffic : Traffic) (call : Call) : Bool :=
  (!call.takesLock || traffic.calls.all fun other => !other.holdsLock) &&
    !(traffic.store.step none call).1.isFailing

/-- The traffic after the calls at some positions have taken one step each, and the changes that
these steps made in memory. -/
def Traffic.follow? (traffic : Traffic) : List Nat → Option (List Update × Traffic)
  | [] => some ([], traffic)
  | position :: rest =>
      match traffic.calls[position]? with
      | none => none
      | some call =>
          if traffic.mayAdvance call then
            ((traffic.advance position call none).follow? rest).map fun (updates, after) =>
              (updatesOf traffic.store position call ++ updates, after)
          else
            none

theorem Calm.follow {store : FileStore} {asked : List Change} {order : List Update}
    {traffic : Traffic} (calm : Calm store asked order traffic) {positions : List Nat}
    {updates : List Update} {after : Traffic}
    (followed : traffic.follow? positions = some (updates, after)) :
    Calm store asked (order ++ updates) after := by
  induction positions generalizing traffic order updates with
  | nil =>
      cases followed
      rw [List.append_nil]
      exact calm
  | cons position rest ih =>
      rw [Traffic.follow?] at followed
      split at followed
      · cases followed
      · rename_i call found
        split at followed
        · rename_i free
          simp only [Traffic.mayAdvance, Bool.and_eq_true, Bool.or_eq_true, Bool.not_eq_true',
            List.all_eq_true] at free
          obtain ⟨⟨later, after'⟩, followed, same⟩ := Option.map_eq_some_iff.mp followed
          cases same
          rw [← List.append_assoc]
          refine ih (.step calm none found ?_ free.2) followed
          rintro rfl
          exact free.1.resolve_left (by rintro ⟨⟩)
        · cases followed

/-- Three calls on a fresh store. -/
def crossing : Traffic :=
  (((Traffic.start fresh).ask (.update (.set "key" "text"))).ask (.update (.set "key" "later"))).ask
    (.update (.remove "other"))

/-- The first two calls change the entries in their order and write them the other way round; the
third one finds nothing to remove. -/
def crossed : List Update × Traffic :=
  (crossing.follow? ([0, 1, 2] ++ List.replicate 8 1 ++ List.replicate 8 0)).getD ([], crossing)

theorem calm_crossed :
    Calm fresh [.set "key" "text", .set "key" "later", .remove "other"] crossed.1 crossed.2 := by
  have asked : Calm fresh [.set "key" "text", .set "key" "later", .remove "other"] [] crossing :=
    .ask (.ask (.ask .start (.set "key" "text")) (.set "key" "later")) (.remove "other")
  have followed : (crossing.follow?
      ([0, 1, 2] ++ List.replicate 8 1 ++ List.replicate 8 0)).isSome = true := by
    decide +kernel
  obtain ⟨result, same⟩ := Option.isSome_iff_exists.mp followed
  rw [crossed, same]
  exact asked.follow same

theorem entries_of_crossed_changes :
    (∀ call ∈ crossed.2.calls, call.rank = 0) ∧ crossed.1.map Update.position = [0, 1, 2] ∧
      openAt crossed.2.store.disk "state.json" ⟨2, 0⟩ =
        (crossed.2.store.disk, .ok ⟨"state.json", crossed.2.store.disk,
          [("key", ⟨"later", ⟨0, 0⟩⟩)], false, ⟨2, 0⟩⟩) := by
  have returned : ∀ call ∈ crossed.2.calls, call.rank = 0 := by decide +kernel
  have entries : crossed.2.store.entries = [("key", ⟨"later", ⟨0, 0⟩⟩)] := by decide +kernel
  have opens :=
    (overlapping_changes_all_land opened_fresh calm_crossed returned ⟨2, 0⟩).2.2.1
  rw [entries] at opens
  exact ⟨returned, by decide +kernel, opens⟩

end ProbeWatch.FileStore
