import Mathlib.Logic.Relation
import ProbeWatch.Proofs.Store.Usage

/-!
# Calls that overlap

Any number of calls on one store, whose steps interleave in any order.  The entries in memory are those
that the store was opened with after all changes so far; the text of the call that holds the lock is
that of the entries after an earlier part of the changes, and the state file holds those after a still
earlier part.
-/

namespace ProbeWatch.FileStore

open StateFile (StoredText Sound encode)

/-! ## Interleaved calls -/

/-- A store and the calls that have been made on it. -/
structure Traffic where
  /-- The store. -/
  store : FileStore
  /-- What is left of each call, in the order in which the calls were made. -/
  calls : List Call
  /-- The changes of the entries in memory so far, with the moments at which they were made. -/
  log : List (Change × Moment)

/-- The change that the next step of a call makes in memory. -/
def changesOf (store : FileStore) : Call → List (Change × Moment)
  | .update change => if (store.change? change).isSome then [(change, store.now)] else []
  | _ => []

namespace Traffic

/-- A store before the first call. -/
def start (store : FileStore) : Traffic := ⟨store, [], []⟩

/-- One more call. -/
def ask (traffic : Traffic) (request : Call) : Traffic :=
  { traffic with calls := traffic.calls ++ [request] }

/-- The next step of the call at a position. -/
def advance (traffic : Traffic) (position : Nat) (call : Call) (fault : Option Fault) : Traffic where
  store := (traffic.store.step fault call).2
  calls := traffic.calls.set position (traffic.store.step fault call).1
  log := traffic.log ++ changesOf traffic.store call

/-- One step of a store under traffic. -/
inductive Turn : Traffic → Traffic → Prop
  /-- Someone makes a call. -/
  | ask (traffic : Traffic) {request : Call} (asked : request.isRequest = true) :
      Turn traffic (traffic.ask request)
  /-- The clock shows another moment. -/
  | tick (traffic : Traffic) {now : Moment} (valid : now.IsValid) :
      Turn traffic { traffic with store := traffic.store.atTime now }
  /-- One of the calls takes its next step.  The lock is taken only while no other call holds it. -/
  | step (traffic : Traffic) (fault : Option Fault) {position : Nat} {call : Call}
      (found : traffic.calls[position]? = some call)
      (free : call = .acquire → ∀ other ∈ traffic.calls, other.holdsLock = false) :
      Turn traffic (traffic.advance position call fault)

/-- Any number of steps. -/
abbrev Turns : Traffic → Traffic → Prop := Relation.ReflTransGen Turn

theorem getElem?_ask {traffic : Traffic} {position : Nat} {request call : Call}
    (found : (traffic.ask request).calls[position]? = some call) :
    traffic.calls[position]? = some call ∨ call = request := by
  rw [ask, List.getElem?_append] at found
  split at found
  · exact .inl found
  · right
    rw [List.getElem?_singleton] at found
    split at found
    · exact (Option.some.inj found).symm
    · cases found

theorem getElem?_ask_of_found {traffic : Traffic} {position : Nat} {call : Call}
    (found : traffic.calls[position]? = some call) (request : Call) :
    (traffic.ask request).calls[position]? = some call := by
  have inside := (List.getElem?_eq_some_iff.mp found).1
  rw [ask, List.getElem?_append_left inside]
  exact found

theorem getElem?_set {calls : List Call} {position : Nat} {call : Call}
    (found : calls[position]? = some call) (next : Call) (other : Nat) :
    (calls.set position next)[other]? = if position = other then some next else calls[other]? := by
  have inside := (List.getElem?_eq_some_iff.mp found).1
  rw [List.getElem?_set, if_pos inside]

end Traffic

/-! ## Changes one after another -/

/-- The entries after some changes. -/
def replay (entries : Dict StoredText) (log : List (Change × Moment)) : Dict StoredText :=
  log.foldl (fun entries item => amend entries item.2 item.1) entries

theorem changesOf_of_holdsLock {call : Call} (holds : call.holdsLock = true) (store : FileStore) :
    changesOf store call = [] := by
  cases call with
  | update => cases holds
  | _ => rfl

theorem replay_append (entries : Dict StoredText) (log more : List (Change × Moment)) :
    replay entries (log ++ more) = replay (replay entries log) more :=
  List.foldl_append

theorem sound_replay {entries : Dict StoredText} (sound : Sound entries)
    {log : List (Change × Moment)} (dated : ∀ item ∈ log, item.2.IsValid) :
    Sound (replay entries log) := by
  induction log generalizing entries with
  | nil => exact sound
  | cons item log ih =>
      exact ih (sound_amend sound (dated item List.mem_cons_self) item.1)
        fun item found => dated item (List.mem_cons_of_mem _ found)

theorem entries_step (store : FileStore) (fault : Option Fault) (call : Call) :
    (store.step fault call).2.entries = replay store.entries (changesOf store call) := by
  have effect := effect_step store fault call
  cases call with
  | update change =>
      generalize store.step fault (.update change) = next at effect
      obtain ⟨next, after⟩ := next
      dsimp only at effect ⊢
      cases effect with
      | changed made =>
          rw [changesOf, made, eq_of_change? made]
          rfl
      | skipped absent =>
          rw [changesOf, absent]
          rfl
      | used was is disk => cases was
  | _ => exact effect.entries (by rintro _ ⟨⟩)

/-- A step after which the store is not dirty, but for the taking of a text, has made no change, and
it has not broken off a writing. -/
theorem Effect.still {store after : FileStore} {call next : Call}
    (effect : Effect store after call next) (other : call ≠ .capture) (still : after.dirty = false) :
    store.dirty = false ∧ changesOf store call = [] ∧
      (call.isWriting = true → next.isWriting = true ∨ next = .release (.ok ())) := by
  cases effect with
  | changed made =>
      rw [eq_of_change? made] at still
      cases still
  | skipped absent =>
      refine ⟨still, ?_, by rintro ⟨⟩⟩
      rw [changesOf, absent]
      rfl
  | captured => exact absurd rfl other
  | used was is disk =>
      have holds := Call.holdsLock_of_isWriting (Call.isWriting_of_hasText was)
      exact ⟨still, changesOf_of_holdsLock holds store, fun _ => .inl is⟩
  | moved disk => exact ⟨still, rfl, fun _ => .inr rfl⟩
  | failed failure => cases still
  | _ => exact ⟨still, rfl, by rintro ⟨⟩⟩

/-! ## What every step preserves -/

/-- How far the text on its way and the state file are behind the changes in memory: the text is that
of the entries after the first `captured` changes, and the file holds those after the first `landed`
ones. -/
structure Ledger (path : String) (entries : Dict StoredText) (traffic : Traffic)
    (captured landed : Nat) : Prop where
  path_eq : traffic.store.path = path
  valid : traffic.store.now.IsValid
  dated : ∀ item ∈ traffic.log, item.2.IsValid
  memory : traffic.store.entries = replay entries traffic.log
  captured_le : captured ≤ traffic.log.length
  landed_le : landed ≤ captured
  holds : Holds path traffic.store.disk (replay entries (traffic.log.take landed))
  carries : ∀ (position : Nat) (call : Call), traffic.calls[position]? = some call →
    Carries (replay entries (traffic.log.take captured)) traffic.store call
  /-- At most one call holds the lock. -/
  alone : ∀ (i j : Nat) (call other : Call), traffic.calls[i]? = some call →
    traffic.calls[j]? = some other → call.holdsLock = true → other.holdsLock = true → i = j
  /-- A store that is not dirty has brought all changes to the disk, or it is writing them. -/
  clean : traffic.store.dirty = false → landed = traffic.log.length ∨
    captured = traffic.log.length ∧
      ∃ (position : Nat) (call : Call), traffic.calls[position]? = some call ∧
        call.isWriting = true

theorem ledger_start {disk : Disk} {path : String} {store : FileStore}
    (opened : OpenedOn disk path store) : Ledger path store.entries (.start store) 0 0 := by
  obtain ⟨holds, path_eq, -⟩ := opened.spec
  have none (position : Nat) (call : Call) : (Traffic.start store).calls[position]? ≠ some call := by
    simp [Traffic.start]
  exact ⟨path_eq, opened.valid, by rintro _ ⟨⟩, rfl, Nat.le_refl 0, Nat.le_refl 0, holds,
    fun position call found => absurd found (none position call),
    fun i _ call _ found => absurd found (none i call), fun _ => .inl rfl⟩

/-- What a call on its way promises about the first `count` changes: its text has them, or the state
file does once they have been moved there. -/
def Promises (count captured landed : Nat) : Call → Prop
  | .createTemp _ | .writeTemp _ | .flushTemp | .backUp | .moveTemp => count ≤ captured
  | .release (.ok ()) => count ≤ landed
  | _ => True

theorem Promises.mono {count captured landed captured' landed' : Nat} {call : Call}
    (promises : Promises count captured landed call) (le : captured ≤ captured')
    (le' : landed ≤ landed') : Promises count captured' landed' call := by
  cases call with
  | createTemp | writeTemp | flushTemp | backUp | moveTemp => exact Nat.le_trans promises le
  | release outcome =>
      cases outcome with
      | ok done => exact Nat.le_trans promises le'
      | error failure => trivial
  | _ => trivial

theorem promises_of_effect {count captured landed : Nat} {store after : FileStore}
    {call next : Call} (effect : Effect store after call next) (isn't : next ≠ .release (.ok ()))
    (other : call ≠ .capture) (promises : Promises count captured landed call) :
    Promises count captured landed next := by
  cases effect with
  | captured => exact absurd rfl other
  | moved disk => exact absurd rfl isn't
  | used was is disk =>
      have promised : count ≤ captured := by
        cases call with
        | createTemp | writeTemp | flushTemp | backUp | moveTemp => exact promises
        | _ => cases was
      cases next with
      | createTemp | writeTemp | flushTemp | backUp | moveTemp => exact promised
      | markDirty failure => trivial
      | _ => cases is
  | _ => trivial

namespace Ledger

variable {path : String} {entries : Dict StoredText} {traffic : Traffic} {captured landed : Nat}

theorem tick (ledger : Ledger path entries traffic captured landed) {now : Moment}
    (valid : now.IsValid) :
    Ledger path entries { traffic with store := traffic.store.atTime now } captured landed :=
  { ledger with
    valid := valid
    carries := fun position call found => carries_congr rfl rfl (ledger.carries position call found) }

theorem ask (ledger : Ledger path entries traffic captured landed) {request : Call}
    (asked : request.isRequest = true) :
    Ledger path entries (traffic.ask request) captured landed := by
  have free : request.holdsLock = false := by cases request <;> first | rfl | cases asked
  have quiet : request.hasText = false := by cases request <;> first | rfl | cases asked
  refine { ledger with carries := ?_, alone := ?_, clean := ?_ }
  · intro position call found
    rcases Traffic.getElem?_ask found with old | rfl
    · exact carries_congr rfl rfl (ledger.carries position call old)
    · exact carries_of_not_hasText _ _ quiet
  · intro i j call other found found' holds holds'
    rcases Traffic.getElem?_ask found with old | rfl
    · rcases Traffic.getElem?_ask found' with old' | rfl
      · exact ledger.alone i j call other old old' holds holds'
      · rw [free] at holds'
        cases holds'
    · rw [free] at holds
      cases holds
  · intro still
    refine (ledger.clean still).imp_right ?_
    rintro ⟨all, position, call, found, writing⟩
    exact ⟨all, position, call, Traffic.getElem?_ask_of_found found request, writing⟩

section

variable {position : Nat} {call : Call} (ledger : Ledger path entries traffic captured landed)
  (found : traffic.calls[position]? = some call) (fault : Option Fault)
include ledger found

theorem carries_other {other : Nat} {call' : Call} (found' : traffic.calls[other]? = some call')
    (different : position ≠ other) {text : Dict StoredText}
    (carries : call.holdsLock = false → Carries text traffic.store call') :
    Carries text (traffic.store.step fault call).2 call' := by
  have effect := effect_step traffic.store fault call
  by_cases holds : call.holdsLock = true
  · refine carries_of_not_hasText _ _ (Bool.eq_false_iff.mpr fun bringing => different ?_)
    exact ledger.alone position other call call' found found' holds
      (Call.holdsLock_of_isWriting (Call.isWriting_of_hasText bringing))
  · have free := Bool.eq_false_iff.mpr holds
    exact carries_congr (effect.disk_of_free free) effect.path_now.1 (carries free)

theorem alone_step (free : call = .acquire → ∀ other ∈ traffic.calls, other.holdsLock = false)
    (i j : Nat) (first second : Call)
    (found₁ : (traffic.advance position call fault).calls[i]? = some first)
    (found₂ : (traffic.advance position call fault).calls[j]? = some second)
    (holds₁ : first.holdsLock = true) (holds₂ : second.holdsLock = true) : i = j := by
  have effect := effect_step traffic.store fault call
  -- Where the step leaves the lock with its call, no other call had it.
  have single : ∀ (other : Nat) (call' : Call), traffic.calls[other]? = some call' →
      call'.holdsLock = true → (traffic.store.step fault call).1.holdsLock = true →
      position = other := by
    intro other call' found' holds' holds
    rcases effect.holdsLock holds with held | rfl
    · exact ledger.alone position other call call' found found' held holds'
    · have none := free rfl call' (List.mem_of_getElem? found')
      rw [none] at holds'
      cases holds'
  rw [Traffic.advance, Traffic.getElem?_set found] at found₁ found₂
  split at found₁
  · rename_i same
    split at found₂
    · rename_i same'
      exact same.symm.trans same'
    · cases found₁
      rw [← same]
      exact single j second found₂ holds₂ holds₁
  · split at found₂
    · rename_i same'
      cases found₂
      rw [← same']
      exact (single i first found₁ holds₁ holds₂).symm
    · exact ledger.alone i j first second found₁ found₂ holds₁ holds₂

theorem dated_step : ∀ item ∈ traffic.log ++ changesOf traffic.store call, item.2.IsValid := by
  intro item found
  rcases List.mem_append.mp found with old | new
  · exact ledger.dated item old
  · cases call with
    | update change =>
        rw [changesOf] at new
        split at new
        · rw [List.mem_singleton.mp new]
          exact ledger.valid
        · cases new
    | _ => cases new

/-- The ledger after a step, from what the step does to the text and to the state file. -/
theorem of_step
    (free : call = .acquire → ∀ other ∈ traffic.calls, other.holdsLock = false)
    {captured' landed' : Nat} (captured_le : captured' ≤ traffic.log.length)
    (landed_le : landed' ≤ captured')
    (holds : Holds path (traffic.store.step fault call).2.disk
      (replay entries (traffic.log.take landed')))
    (carries : Carries (replay entries (traffic.log.take captured'))
      (traffic.store.step fault call).2 (traffic.store.step fault call).1)
    (others : call.holdsLock = false → captured' = captured)
    (clean : (traffic.store.step fault call).2.dirty = false →
      landed' = (traffic.log ++ changesOf traffic.store call).length ∨
        captured' = (traffic.log ++ changesOf traffic.store call).length ∧
          ∃ (other : Nat) (call' : Call),
            (traffic.calls.set position (traffic.store.step fault call).1)[other]? = some call' ∧
              call'.isWriting = true) :
    Ledger path entries (traffic.advance position call fault) captured' landed' := by
  have effect := effect_step traffic.store fault call
  have taken (count : Nat) (le : count ≤ traffic.log.length) :
      (traffic.log ++ changesOf traffic.store call).take count = traffic.log.take count :=
    List.take_append_of_le_length le
  constructor
  case path_eq => exact effect.path_now.1.trans ledger.path_eq
  case valid =>
    change (traffic.store.step fault call).2.now.IsValid
    rw [effect.path_now.2]
    exact ledger.valid
  case dated => exact dated_step ledger found
  case memory =>
    change (traffic.store.step fault call).2.entries = replay entries (traffic.log ++ _)
    rw [entries_step, ledger.memory, replay_append]
  case captured_le =>
    change captured' ≤ (traffic.log ++ _).length
    rw [List.length_append]
    omega
  case landed_le => exact landed_le
  case holds =>
    change Holds path _ (replay entries ((traffic.log ++ _).take landed'))
    rw [taken landed' (landed_le.trans captured_le)]
    exact holds
  case carries =>
    intro other call' found'
    change Carries (replay entries ((traffic.log ++ _).take captured')) _ _
    rw [taken captured' captured_le]
    rw [Traffic.advance, Traffic.getElem?_set found] at found'
    split at found'
    · cases found'
      exact carries
    · refine carries_other ledger found fault found' ‹_› fun free => ?_
      rw [others free]
      exact ledger.carries other call' found'
  case alone => exact alone_step ledger found fault free
  case clean => exact clean

/-- Every step of a call keeps the ledger, and it keeps what the call has promised. -/
theorem advance (apart : Apart path) (sound : Sound entries)
    (free : call = .acquire → ∀ other ∈ traffic.calls, other.holdsLock = false) :
    ∃ captured' landed', captured ≤ captured' ∧ landed ≤ landed' ∧
      Ledger path entries (traffic.advance position call fault) captured' landed' ∧
      ∀ count ≤ traffic.log.length, Promises count captured landed call →
        Promises count captured' landed' (traffic.store.step fault call).1 := by
  obtain rfl := ledger.path_eq
  have effect := effect_step traffic.store fault call
  have held : Sound (replay entries (traffic.log.take captured)) :=
    sound_replay sound fun item inside => ledger.dated item (List.mem_of_mem_take inside)
  have writes := writes_step apart held ledger.holds fault (ledger.carries position call found)
  cases writes with
  | moved was is holds =>
      subst was
      refine ⟨captured, captured, Nat.le_refl _, ledger.landed_le, ?_, fun count _ promised => ?_⟩
      · refine of_step ledger found fault free ledger.captured_le (Nat.le_refl _) holds ?_
          (by rintro ⟨⟩) fun still => .inl ?_
        · rw [is]
          trivial
        · have before := (effect.still (by rintro ⟨⟩) still).1
          have all : captured = traffic.log.length := by
            have := ledger.captured_le
            have := ledger.landed_le
            rcases ledger.clean before with landed | ⟨captured, -⟩ <;> omega
          rw [changesOf_of_holdsLock rfl, List.append_nil]
          exact all
      · rw [is]
        exact promised
  | kept isn't holds carries =>
      by_cases taken : call = .capture
      · subst taken
        refine ⟨traffic.log.length, landed, ledger.captured_le, Nat.le_refl _, ?_,
          fun count le _ => le⟩
        refine of_step ledger found fault free (Nat.le_refl _)
          (ledger.landed_le.trans ledger.captured_le) holds ?_ (by rintro ⟨⟩) fun _ => .inr ⟨?_, ?_⟩
        · rw [List.take_length, ← ledger.memory]
          rfl
        · rw [changesOf_of_holdsLock rfl, List.append_nil]
        · exact ⟨position, _, (Traffic.getElem?_set found _ position).trans (if_pos rfl), rfl⟩
      · refine ⟨captured, landed, Nat.le_refl _, Nat.le_refl _, ?_,
          fun count _ promised => promises_of_effect effect isn't taken promised⟩
        refine of_step ledger found fault free ledger.captured_le ledger.landed_le holds
          (carries taken) (fun _ => rfl) fun still => ?_
        obtain ⟨before, none, goesOn⟩ := effect.still taken still
        rw [none, List.append_nil]
        refine (ledger.clean before).imp_right ?_
        rintro ⟨all, other, call', found', writing⟩
        refine ⟨all, ?_⟩
        by_cases same : position = other
        · subst same
          cases found.symm.trans found'
          have writing := (goesOn writing).resolve_right isn't
          exact ⟨position, _, (Traffic.getElem?_set found _ position).trans (if_pos rfl), writing⟩
        · exact ⟨other, call', (Traffic.getElem?_set found _ other).trans
            ((if_neg same).trans found'), writing⟩

end

theorem turn (ledger : Ledger path entries traffic captured landed) (apart : Apart path)
    (sound : Sound entries) {after : Traffic} (turn : Traffic.Turn traffic after) :
    ∃ captured' landed', landed ≤ landed' ∧ Ledger path entries after captured' landed' ∧
      traffic.log <+: after.log ∧
      ∀ (position : Nat) (call : Call), traffic.calls[position]? = some call →
        call.changes = false → ∃ next, after.calls[position]? = some next ∧ next.changes = false ∧
          ∀ count ≤ traffic.log.length, Promises count captured landed call →
            Promises count captured' landed' next := by
  cases turn with
  | ask asked =>
      refine ⟨captured, landed, Nat.le_refl _, ledger.ask asked, List.prefix_refl _,
        fun position call found quiet => ⟨call, ?_, quiet, fun _ _ promised => promised⟩⟩
      exact Traffic.getElem?_ask_of_found found _
  | tick valid =>
      exact ⟨captured, landed, Nat.le_refl _, ledger.tick valid, List.prefix_refl _,
        fun position call found quiet => ⟨call, found, quiet, fun _ _ promised => promised⟩⟩
  | @step fault position call found free =>
      obtain ⟨captured', landed', le, le', ledger', promised⟩ :=
        ledger.advance found fault apart sound free
      refine ⟨captured', landed', le', ledger', List.prefix_append _ _,
        fun other call' found' quiet => ?_⟩
      rw [Traffic.advance, Traffic.getElem?_set found]
      split
      · rename_i same
        subst same
        cases found.symm.trans found'
        exact ⟨_, rfl, (step_of_not_changes traffic.store fault quiet).1, promised⟩
      · exact ⟨call', found', quiet, fun _ _ promised => promised.mono le le'⟩

end Ledger

theorem exists_ledger {disk : Disk} {path : String} {store : FileStore}
    (opened : OpenedOn disk path store) {traffic : Traffic}
    (turns : Traffic.Turns (.start store) traffic) :
    ∃ captured landed, Ledger path store.entries traffic captured landed := by
  induction turns with
  | refl => exact ⟨0, 0, ledger_start opened⟩
  | tail _ turn ih =>
      obtain ⟨captured, landed, ledger⟩ := ih
      obtain ⟨captured', landed', -, ledger', -⟩ :=
        ledger.turn opened.apart opened.spec.1.sound turn
      exact ⟨captured', landed', ledger'⟩

/-! ## Flushing -/

/-- A call that returns without a failure has released the lock, or it has found nothing to be
written. -/
theorem Effect.returned {store after : FileStore} {call : Call}
    (effect : Effect store after call (.done (.ok ()))) (quiet : call.changes = false)
    (pending : call.rank ≠ 0) : call = .release (.ok ()) ∨ after.dirty = false := by
  cases effect with
  | skipped absent => cases quiet
  | clean still => exact .inr still
  | used was is disk => cases is
  | released outcome => exact .inl rfl
  | ended outcome => exact absurd rfl pending

theorem returned_of_turn {pending after : Traffic} {position : Nat} {call : Call}
    (turn : Traffic.Turn pending after) (unfinished : pending.calls[position]? = some call)
    (going : call.rank ≠ 0) (quiet : call.changes = false)
    (returned : after.calls[position]? = some (.done (.ok ()))) :
    call = .release (.ok ()) ∨ after.store.dirty = false := by
  have moved : pending.calls[position]? ≠ some (.done (.ok ())) := by
    intro same
    cases unfinished.symm.trans same
    exact going rfl
  cases turn with
  | @ask request asked =>
      rw [Traffic.getElem?_ask_of_found unfinished request, ← unfinished] at returned
      exact absurd returned moved
  | tick valid => exact absurd returned moved
  | @step fault other call' found free =>
      rw [Traffic.advance, Traffic.getElem?_set found] at returned
      split at returned
      · rename_i same
        subst same
        cases found.symm.trans unfinished
        have effect := effect_step pending.store fault call
        rw [Option.some.inj returned] at effect
        exact effect.returned quiet going
      · exact absurd returned moved

theorem exists_ledger_of_turns {path : String} {entries : Dict StoredText} (apart : Apart path)
    (sound : Sound entries) {before after : Traffic} {captured landed position : Nat} {call : Call}
    (ledger : Ledger path entries before captured landed)
    (found : before.calls[position]? = some call) (quiet : call.changes = false)
    (promises : Promises before.log.length captured landed call)
    (turns : Traffic.Turns before after) :
    ∃ captured' landed' next, Ledger path entries after captured' landed' ∧
      before.log <+: after.log ∧ after.calls[position]? = some next ∧ next.changes = false ∧
      Promises before.log.length captured' landed' next := by
  induction turns with
  | refl => exact ⟨captured, landed, call, ledger, List.prefix_refl _, found, quiet, promises⟩
  | tail _ turn ih =>
      obtain ⟨captured', landed', next, ledger, grown, found, quiet, promises⟩ := ih
      obtain ⟨captured'', landed'', -, ledger', grown', calls⟩ := ledger.turn apart sound turn
      obtain ⟨next', found', quiet', kept⟩ := calls position next found quiet
      exact ⟨captured'', landed'', next', ledger', grown.trans grown', found', quiet',
        kept _ grown.length_le promises⟩

/-- When a flush returns without a failure, the state file holds the entries after every change that
was made before the flush began, or a call is still writing and its text is that of such entries. -/
theorem flush_covers_earlier_changes {disk : Disk} {path : String} {store : FileStore}
    (opened : OpenedOn disk path store) {before pending after : Traffic}
    (began : Traffic.Turns (.start store) before)
    (went : Traffic.Turns (before.ask .checkDirty) pending) {call : Call}
    (unfinished : pending.calls[before.calls.length]? = some call) (going : call.rank ≠ 0)
    (last : Traffic.Turn pending after)
    (returned : after.calls[before.calls.length]? = some (.done (.ok ()))) :
    ∃ log, before.log <+: log ∧ log <+: after.log ∧
      (load after.store.disk path = .ok (some (replay store.entries log)) ∨
        ∃ (position : Nat) (other : Call), after.calls[position]? = some other ∧
          other.isWriting = true ∧ Carries (replay store.entries log) after.store other) := by
  have sound := opened.spec.1.sound
  obtain ⟨captured, landed, ledger⟩ := exists_ledger opened began
  have request : Call.checkDirty.isRequest = true := rfl
  have asked : (before.ask .checkDirty).calls[before.calls.length]? = some .checkDirty :=
    List.getElem?_concat_length ..
  obtain ⟨captured', landed', next, ledger', grown, found, quiet, promised⟩ :=
    exists_ledger_of_turns opened.apart sound (ledger.ask request) asked rfl trivial went
  cases found.symm.trans unfinished
  obtain ⟨captured'', landed'', le, ledger'', grown', -⟩ :=
    ledger'.turn opened.apart sound last
  have covered : before.log <+: after.log := grown.trans grown'
  have first (count : Nat) (enough : before.log.length ≤ count) :
      before.log <+: after.log.take count := List.prefix_take_iff.mpr ⟨covered, enough⟩
  rcases returned_of_turn last unfinished going quiet returned with rfl | still
  · have enough : before.log.length ≤ landed'' := Nat.le_trans promised le
    exact ⟨_, first _ enough, List.take_prefix _ _, .inl ledger''.holds.load⟩
  · rcases ledger''.clean still with all | ⟨all, position, other, found', writing⟩
    · have enough : before.log.length ≤ landed'' := all ▸ covered.length_le
      exact ⟨_, first _ enough, List.take_prefix _ _, .inl ledger''.holds.load⟩
    · have enough : before.log.length ≤ captured'' := all ▸ covered.length_le
      exact ⟨_, first _ enough, List.take_prefix _ _,
        .inr ⟨position, other, found', writing, ledger''.carries position other found'⟩⟩

/-- A call that sets a text on a fresh store, as soon as it has taken its text from memory. -/
def midway : Traffic :=
  ((((Traffic.start fresh).ask (.update (.set "key" "text"))).advance 0
    (.update (.set "key" "text")) none).advance 0 .acquire none).advance 0 .capture none

theorem turns_midway : Traffic.Turns (.start fresh) midway := by
  rw [midway]
  refine .tail ?_ (.step _ none rfl (by rintro ⟨⟩))
  refine .tail ?_ (.step _ none rfl fun _ => List.forall_mem_singleton.mpr rfl)
  refine .tail ?_ (.step _ none rfl (by rintro ⟨⟩))
  exact .single (.ask _ rfl)

theorem turn_midway : Traffic.Turn (midway.ask .checkDirty)
    ((midway.ask .checkDirty).advance 1 .checkDirty none) :=
  .step _ none rfl (by rintro ⟨⟩)

theorem flush_beside_writer :
    ∃ log, [(.set "key" "text", ⟨0, 0⟩)] <+: log ∧
      (load fresh.disk "state.json" = .ok (some (replay [] log)) ∨
        ∃ (position : Nat) (other : Call),
          ((midway.ask .checkDirty).advance 1 .checkDirty none).calls[position]? = some other ∧
            other.isWriting = true ∧ Carries (replay [] log) midway.store other) := by
  have going : Call.checkDirty.rank ≠ 0 := by decide
  obtain ⟨log, before, -, covered⟩ :=
    flush_covers_earlier_changes opened_fresh turns_midway .refl rfl going turn_midway rfl
  exact ⟨log, before, covered⟩

/-- A disk whose state file does not decode. -/
def damaged : Disk := ⟨[("state.json", .file "\x7b not json".toUTF8)]⟩

/-- A flush can return without a failure before the text of another call reaches the state file, as
the flag says that there is nothing to be written.  It also returns so where the state file was
damaged when the store was opened and nothing was changed since. -/
theorem flush_returns_without_state_file :
    (∃ before after : Traffic, Traffic.Turns (.start fresh) before ∧
      before.log = [(.set "key" "text", ⟨0, 0⟩)] ∧
      Traffic.Turns (before.ask .checkDirty) after ∧
      after.calls[before.calls.length]? = some (.done (.ok ())) ∧
      load after.store.disk "state.json" = .ok (some [])) ∧
    ((openAt damaged "state.json" ⟨0, 0⟩).2.toOption.bind fun store =>
      let removed := store.remove "key"
      let flushed := removed.1.flush
      removed.2.toOption.bind fun _ => flushed.2.toOption.bind fun _ =>
        (load flushed.1.disk "state.json").toOption) = some none := by
  refine ⟨⟨midway, (midway.ask .checkDirty).advance 1 .checkDirty none, turns_midway, rfl,
    .single turn_midway, rfl, opened_fresh.spec.1.load⟩, ?_⟩
  decide +kernel

end ProbeWatch.FileStore
