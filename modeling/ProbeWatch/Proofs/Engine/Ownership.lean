import ProbeWatch.Proofs.Engine.Operation
import ProbeWatch.Proofs.Engine.Race

/-!
# Ownership of timers

However calls interleave, every live timer has exactly one owner: the engine, or a call that has yet
to put it in force or to cancel it.  So there is at most one timer once all calls have ended.
-/

namespace ProbeWatch.Engine

open Race (Turn Turns)

/-! ## Ownership -/

/-- Every live timer has one owner, and one call at most is about to put a timer in force. -/
structure Sound (race : Race) : Prop where
  /-- A live timer is owned once, by the engine or by a call, and no other timer is owned. -/
  owners : ∀ id, (race.line.clock.live.map Timer.id).count id =
    (if race.line.shared.timer = some id then 1 else 0) +
      race.calls.countP (fun call => call.held == some id)
  inForce : ∀ id, race.line.shared.timer = some id →
    race.line.shared.phase = .running ∧
      ∃ timer ∈ race.line.clock.live, timer.id = id ∧ timer.action = race.line.shared.generation
  /-- A session without a timer in force has one call that sees to it. -/
  armers : race.calls.countP (fun call => call.arming == some race.line.shared.generation) =
    if race.line.shared.phase = .running ∧ race.line.shared.timer = none then 1 else 0
  pledged : ∀ call ∈ race.calls, ∀ generation id, call.pledge = some (generation, id) →
    ∃ timer ∈ race.line.clock.live, timer.id = id ∧ timer.action = generation
  remembered_le : ∀ call ∈ race.calls, ∀ generation, call.remembered = some generation →
    generation ≤ race.line.shared.generation
  action_le : ∀ timer ∈ race.line.clock.live, timer.action ≤ race.line.shared.generation

theorem Call.remembered_of_arming {call : Call} {generation : Nat}
    (arming : call.arming = some generation) : call.remembered = some generation := by
  cases call <;> first | exact arming | cases arming

theorem Call.held_of_pledge {call : Call} {generation id : Nat}
    (pledge : call.pledge = some (generation, id)) : call.held = some id := by
  cases call <;> cases pledge
  rfl

theorem countP_replace {α : Type} (p : α → Bool) (earlier later : List α) (old new : α) :
    (earlier ++ new :: later).countP p + (if p old then 1 else 0) =
      (earlier ++ old :: later).countP p + (if p new then 1 else 0) := by
  simp only [List.countP_append, List.countP_cons]
  omega

theorem mem_of_mem_replace {α : Type} {earlier later : List α} {old new other : α}
    (found : other ∈ earlier ++ new :: later) : other = new ∨ other ∈ earlier ++ old :: later := by
  simp only [List.mem_append, List.mem_cons] at found ⊢
  rcases found with found | found | found <;> simp [found]

theorem forall_mem_replace {α : Type} {P Q : α → Prop} {earlier later : List α} {old new : α}
    (all : ∀ other ∈ earlier ++ old :: later, P other) (widen : ∀ other, P other → Q other)
    (first : Q new) : ∀ other ∈ earlier ++ new :: later, Q other := by
  intro other found
  rcases mem_of_mem_replace found with rfl | found
  · exact first
  · exact widen other (all other found)

theorem Call.forall_pledged_replace {P : Nat → Nat → Prop} {earlier later : List Call}
    {call next : Call}
    (pledged : ∀ other ∈ earlier ++ call :: later, ∀ generation id,
      other.pledge = some (generation, id) → P generation id)
    (pledge : next.pledge = none) :
    ∀ other ∈ earlier ++ next :: later, ∀ generation id,
      other.pledge = some (generation, id) → P generation id := by
  refine forall_mem_replace pledged (fun _ kept => kept) fun generation id pledge' => ?_
  rw [pledge] at pledge'
  cases pledge'

theorem Timers.count_id_le_one (timers : Timers Nat) (id : Nat) :
    (timers.live.map Timer.id).count id ≤ 1 := by
  refine List.nodup_iff_count.mp ?_ id
  rw [List.Nodup, List.pairwise_map]
  exact timers.ids_increasing.imp Nat.ne_of_lt

section

variable {line after : Line Timers} {earlier later : List Call} {call next : Call}

theorem Sound.quiet (sound : Sound ⟨line, earlier ++ call :: later⟩)
    (clock : after.clock = line.clock) (phase : after.shared.phase = line.shared.phase)
    (generation : after.shared.generation = line.shared.generation)
    (timer : after.shared.timer = line.shared.timer) (held : next.held = call.held)
    (arming : next.arming = call.arming ∨
      next.arming = none ∧ call.arming ≠ some line.shared.generation)
    (pledge : next.pledge = none)
    (remembered : next.remembered = none ∨ next.remembered = call.remembered) :
    Sound ⟨after, earlier ++ next :: later⟩ := by
  obtain ⟨owners, inForce, armers, pledged, remembered_le, action_le⟩ := sound
  dsimp only at *
  rw [← generation] at arming
  rw [← clock, ← timer] at owners
  rw [← clock, ← phase, ← generation, ← timer] at inForce
  rw [← phase, ← generation, ← timer] at armers
  rw [← clock] at pledged
  rw [← generation] at remembered_le
  rw [← clock, ← generation] at action_le
  refine ⟨fun id => ?owners, inForce, ?armers, ?pledged, ?remembered_le, action_le⟩
  case owners =>
    have exchanged := countP_replace (fun call => call.held == some id) earlier later call next
    have before := owners id
    simp only [held] at exchanged
    dsimp only
    omega
  case armers =>
    have exchanged := countP_replace
      (fun call => call.arming == some after.shared.generation) earlier later call next
    dsimp only
    rcases arming with same | ⟨none, other⟩
    · simp only [same] at exchanged
      omega
    · have unarmed : (next.arming == some after.shared.generation) = false := by rw [none]; rfl
      simp only [unarmed, beq_eq_false_iff_ne.mpr other] at exchanged
      omega
  case pledged => exact Call.forall_pledged_replace pledged pledge
  case remembered_le =>
    refine forall_mem_replace remembered_le (fun _ kept => kept) fun generation known => ?_
    rcases remembered with none | same
    · rw [none] at known
      cases known
    · exact remembered_le call (by simp) generation (same ▸ known)

theorem Sound.supersede (sound : Sound ⟨line, earlier ++ call :: later⟩)
    (clock : after.clock = line.clock)
    (generation : after.shared.generation = line.shared.generation + 1)
    (timer : after.shared.timer = none) (free : call.held = none)
    (held : next.held = line.shared.timer) (unarmed : call.arming = none)
    (arming : next.arming =
      if after.shared.phase = .running then some after.shared.generation else none)
    (pledge : next.pledge = none) (remembered : next.remembered = next.arming) :
    Sound ⟨after, earlier ++ next :: later⟩ := by
  obtain ⟨owners, inForce, armers, pledged, remembered_le, action_le⟩ := sound
  dsimp only at *
  refine ⟨fun id => ?owners, ?inForce, ?armers, ?pledged, ?remembered_le, ?action_le⟩
  case owners =>
    have exchanged := countP_replace (fun call => call.held == some id) earlier later call next
    have before := owners id
    simp only [free, held, beq_iff_eq, reduceCtorEq, if_false] at exchanged
    simp only [clock, timer, reduceCtorEq, if_false]
    omega
  case inForce =>
    simp [timer]
  case armers =>
    have exchanged := countP_replace
      (fun call => call.arming == some after.shared.generation) earlier later call next
    have none_before : (earlier ++ call :: later).countP
        (fun call => call.arming == some after.shared.generation) = 0 := by
      rw [List.countP_eq_zero]
      intro other found same
      have le := remembered_le other found _ (Call.remembered_of_arming (eq_of_beq same))
      omega
    simp only [none_before, unarmed, arming, timer] at exchanged ⊢
    by_cases running : after.shared.phase = .running <;> simp_all
  case pledged =>
    rw [← clock] at pledged
    exact Call.forall_pledged_replace pledged pledge
  case remembered_le =>
    refine forall_mem_replace remembered_le (fun _ kept generation' known => ?_)
      fun generation' known => ?_
    · have le := kept generation' known
      dsimp only
      omega
    · rw [remembered, arming] at known
      split at known
      · exact Nat.le_of_eq (Option.some.inj known).symm
      · cases known
  case action_le =>
    intro timer' found
    rw [clock] at found
    have le := action_le timer' found
    dsimp only
    omega

theorem count_id_cancel (timers : Timers Nat) (former id : Nat) :
    ((timers.cancel former).live.map Timer.id).count id =
      if id = former then 0 else (timers.live.map Timer.id).count id := by
  have filtered : (timers.cancel former).live.map Timer.id =
      (timers.live.map Timer.id).filter (fun id => id != former) := by
    rw [List.filter_map]
    rfl
  rw [filtered]
  split
  · rename_i same
    subst same
    exact List.count_eq_zero.mpr (by simp)
  · rename_i different
    exact List.count_filter (by simp [different])

/-- A call that cancels the timer it holds takes nothing from the other owners. -/
theorem Sound.owners_cancel (sound : Sound ⟨line, earlier ++ call :: later⟩) {former : Nat}
    (holding : call.held = some former) (held : next.held = none) (id : Nat) :
    ((line.clock.cancel former).live.map Timer.id).count id =
      (if line.shared.timer = some id then 1 else 0) +
        (earlier ++ next :: later).countP (fun call => call.held == some id) := by
  have exchanged := countP_replace (fun call => call.held == some id) earlier later call next
  have once := Timers.count_id_le_one line.clock id
  have before := sound.owners id
  simp only [holding, held, beq_iff_eq, reduceCtorEq, if_false, Option.some.injEq] at exchanged
  dsimp only at before
  rw [count_id_cancel]
  by_cases same : id = former
  · rw [if_pos same.symm] at exchanged
    rw [if_pos same]
    omega
  · rw [if_neg (Ne.symm same)] at exchanged
    rw [if_neg same]
    omega

/-- A call may cancel the timer that it holds, since nobody else owns it. -/
theorem Sound.drop (sound : Sound ⟨line, earlier ++ call :: later⟩)
    (clock : after.clock = (line.drop call.held).clock)
    (phase : after.shared.phase = line.shared.phase)
    (generation : after.shared.generation = line.shared.generation)
    (timer : after.shared.timer = line.shared.timer) (held : next.held = none)
    (arming : next.arming = call.arming) (pledge : next.pledge = none)
    (remembered : next.remembered = call.remembered) :
    Sound ⟨after, earlier ++ next :: later⟩ := by
  cases holding : call.held with
  | none =>
      rw [holding] at clock
      exact sound.quiet clock phase generation timer (held.trans holding.symm) (.inl arming) pledge
        (.inr remembered)
  | some former =>
      have owners' := sound.owners_cancel holding held
      obtain ⟨-, inForce, armers, pledged, remembered_le, action_le⟩ := sound
      dsimp only at *
      rw [holding] at clock
      change after.clock = line.clock.cancel former at clock
      rw [← clock, ← timer] at owners'
      have unowned : (after.clock.live.map Timer.id).count former = 0 := by
        rw [clock]
        exact (count_id_cancel line.clock former former).trans (if_pos rfl)
      have keeps : ∀ timer' ∈ line.clock.live, timer'.id ≠ former →
          timer' ∈ after.clock.live := by
        intro timer' found different
        rw [clock]
        exact List.mem_filter.mpr ⟨found, by simpa using different⟩
      refine ⟨owners', ?inForce, ?armers, ?pledged, ?remembered_le, ?action_le⟩
      case inForce =>
        intro id stored
        obtain ⟨running, timer', found, number, action⟩ := inForce id (timer ▸ stored)
        refine ⟨phase.trans running, timer', keeps timer' found ?_, number,
          action.trans generation.symm⟩
        rintro rfl
        have counted := owners' timer'.id
        rw [unowned, number, if_pos stored] at counted
        omega
      case armers =>
        have exchanged := countP_replace
          (fun call => call.arming == some after.shared.generation) earlier later call next
        simp only [arming] at exchanged
        rw [← generation, ← phase, ← timer] at armers
        dsimp only
        omega
      case pledged =>
        intro other found generation' id pledge'
        rcases mem_of_mem_replace found with rfl | found'
        · rw [pledge] at pledge'
          cases pledge'
        · obtain ⟨timer', member, number, action⟩ := pledged other found' generation' id pledge'
          refine ⟨timer', keeps timer' member ?_, number, action⟩
          rintro rfl
          have holds := Call.held_of_pledge pledge'
          have counted := owners' timer'.id
          have positive : 0 < (earlier ++ next :: later).countP
              (fun call => call.held == some timer'.id) :=
            List.countP_pos_iff.mpr ⟨other, found, by simp [holds, number]⟩
          omega
      case remembered_le =>
        rw [← generation] at remembered_le
        refine forall_mem_replace remembered_le (fun _ kept => kept) fun generation' known => ?_
        exact remembered_le call (by simp) generation' (remembered ▸ known)
      case action_le =>
        intro timer' found
        rw [generation]
        rw [clock] at found
        exact action_le timer' (List.mem_filter.mp found).1

theorem Sound.arm (sound : Sound ⟨line, earlier ++ call :: later⟩) {timer : Timer Nat}
    (live : after.clock.live = line.clock.live ++ [timer])
    (shared : after.shared = line.shared) (free : call.held = none)
    (held : next.held = some timer.id) (arming : call.arming = some timer.action)
    (arming' : next.arming = some timer.action)
    (pledge : next.pledge = some (timer.action, timer.id))
    (remembered : next.remembered = some timer.action) :
    Sound ⟨after, earlier ++ next :: later⟩ := by
  obtain ⟨owners, inForce, armers, pledged, remembered_le, action_le⟩ := sound
  dsimp only at *
  have current := remembered_le call (by simp) _ (Call.remembered_of_arming arming)
  have stays : ∀ timer' ∈ line.clock.live, timer' ∈ after.clock.live := by
    intro timer' found
    rw [live]
    exact List.mem_append_left _ found
  refine ⟨fun id => ?owners, ?inForce, ?armers, ?pledged, ?remembered_le, ?action_le⟩
  case owners =>
    have exchanged := countP_replace (fun call => call.held == some id) earlier later call next
    have before := owners id
    simp only [free, held, beq_iff_eq, reduceCtorEq, if_false, Option.some.injEq] at exchanged
    dsimp only
    rw [live, shared, List.map_append, List.count_append]
    by_cases same : timer.id = id
    · subst same
      simp only [List.map_cons, List.map_nil, List.count_singleton_self, if_pos] at *
      omega
    · simp only [List.map_cons, List.map_nil, List.count_singleton, beq_iff_eq, if_neg same] at *
      omega
  case inForce =>
    intro id stored
    rw [shared] at stored ⊢
    obtain ⟨running, timer', found, rest⟩ := inForce id stored
    exact ⟨running, timer', stays timer' found, rest⟩
  case armers =>
    have exchanged := countP_replace
      (fun call => call.arming == some after.shared.generation) earlier later call next
    simp only [arming, arming'] at exchanged
    rw [← shared] at armers
    dsimp only
    omega
  case pledged =>
    refine forall_mem_replace pledged (fun _ kept generation id pledge' => ?_)
      fun generation id pledge' => ?_
    · obtain ⟨timer', member, rest⟩ := kept generation id pledge'
      exact ⟨timer', stays timer' member, rest⟩
    · rw [pledge] at pledge'
      cases pledge'
      exact ⟨timer, by rw [live]; simp, rfl, rfl⟩
  case remembered_le =>
    rw [← shared] at remembered_le current
    refine forall_mem_replace remembered_le (fun _ kept => kept) fun generation known => ?_
    rw [remembered] at known
    cases known
    exact current
  case action_le =>
    intro timer' found
    rw [shared]
    rw [live] at found
    rcases List.mem_append.mp found with old | new
    · exact action_le timer' old
    · rw [List.mem_singleton.mp new]
      exact current

/-- A call that puts its timer in force finds none in force, since it alone sees to that. -/
theorem Sound.install (sound : Sound ⟨line, earlier ++ call :: later⟩) {timer : Nat}
    (clock : after.clock = (line.drop line.shared.timer).clock)
    (phase : after.shared.phase = line.shared.phase)
    (generation : after.shared.generation = line.shared.generation)
    (timer_eq : after.shared.timer = some timer) (held : call.held = some timer)
    (pledge : call.pledge = some (line.shared.generation, timer))
    (arming : call.arming = some line.shared.generation) (held' : next.held = none)
    (arming' : next.arming = none) (pledge' : next.pledge = none)
    (remembered' : next.remembered = none) : Sound ⟨after, earlier ++ next :: later⟩ := by
  obtain ⟨owners, inForce, armers, pledged, remembered_le, action_le⟩ := sound
  dsimp only at *
  have armed : 0 < (earlier ++ call :: later).countP
      (fun call => call.arming == some line.shared.generation) :=
    List.countP_pos_iff.mpr ⟨call, by simp, by simp [arming]⟩
  obtain ⟨running, vacant⟩ :
      line.shared.phase = .running ∧ line.shared.timer = none := by
    refine Decidable.byContradiction fun other => ?_
    rw [if_neg other] at armers
    omega
  rw [if_pos ⟨running, vacant⟩] at armers
  rw [vacant] at clock
  change after.clock = line.clock at clock
  refine ⟨fun id => ?owners, ?inForce, ?armers, ?pledged, ?remembered_le, ?action_le⟩
  case owners =>
    have exchanged := countP_replace (fun call => call.held == some id) earlier later call next
    have before := owners id
    simp only [held, held', vacant, beq_iff_eq, reduceCtorEq, if_false, Option.some.injEq] at *
    rw [clock, timer_eq]
    simp only [Option.some.injEq]
    omega
  case inForce =>
    intro id stored
    rw [timer_eq] at stored
    cases stored
    rw [clock, generation]
    exact ⟨phase.trans running, pledged call (by simp) _ _ pledge⟩
  case armers =>
    have exchanged := countP_replace
      (fun call => call.arming == some line.shared.generation) earlier later call next
    simp only [arming, arming', beq_self_eq_true, if_true] at exchanged
    have unarmed : ((none : Option Nat) == some line.shared.generation) = false := rfl
    rw [unarmed] at exchanged
    dsimp only
    rw [generation, timer_eq, if_neg (by simp)]
    simp only [Bool.false_eq_true, if_false] at exchanged
    omega
  case pledged =>
    rw [← clock] at pledged
    exact Call.forall_pledged_replace pledged pledge'
  case remembered_le =>
    rw [← generation] at remembered_le
    refine forall_mem_replace remembered_le (fun _ kept => kept) fun generation' known => ?_
    rw [remembered'] at known
    cases known
  case action_le =>
    intro timer' found
    rw [generation]
    rw [clock] at found
    exact action_le timer' found

end

/-! ## Turns -/

theorem Sound.join {line : Line Timers} {calls : List Call} {call : Call}
    (sound : Sound ⟨line, calls⟩) (held : call.held = none) (arming : call.arming = none)
    (pledge : call.pledge = none)
    (remembered_le : ∀ generation, call.remembered = some generation →
      generation ≤ line.shared.generation) : Sound ⟨line, call :: calls⟩ where
  owners id := by
    rw [List.countP_cons_of_neg (by simp [held])]
    exact sound.owners id
  inForce := sound.inForce
  armers := by
    rw [List.countP_cons_of_neg (by simp [arming])]
    exact sound.armers
  pledged other found generation id pledge' := by
    rcases List.mem_cons.mp found with rfl | found
    · rw [pledge] at pledge'
      cases pledge'
    · exact sound.pledged other found generation id pledge'
  remembered_le other found generation known := by
    rcases List.mem_cons.mp found with rfl | found
    · exact remembered_le generation known
    · exact sound.remembered_le other found generation known
  action_le := sound.action_le

theorem Sound.elapse {line : Line Timers} {calls : List Call} {clock : Timers Nat}
    (sound : Sound ⟨line, calls⟩)
    (live : clock.live.map (fun timer => (timer.id, timer.action)) =
      line.clock.live.map (fun timer => (timer.id, timer.action))) :
    Sound ⟨{ line with clock }, calls⟩ := by
  have stays : ∀ timer ∈ line.clock.live,
      ∃ timer' ∈ clock.live, timer'.id = timer.id ∧ timer'.action = timer.action := by
    intro timer found
    have listed := List.mem_map_of_mem (f := fun timer => (timer.id, timer.action)) found
    rw [← live] at listed
    obtain ⟨timer', found', same⟩ := List.mem_map.mp listed
    exact ⟨timer', found', Prod.mk.inj same⟩
  have came : ∀ timer ∈ clock.live, ∃ timer' ∈ line.clock.live, timer'.action = timer.action := by
    intro timer found
    have listed := List.mem_map_of_mem (f := fun timer => (timer.id, timer.action)) found
    rw [live] at listed
    obtain ⟨timer', found', same⟩ := List.mem_map.mp listed
    exact ⟨timer', found', (Prod.mk.inj same).2⟩
  refine ⟨fun id => ?owners, fun id stored => ?inForce, sound.armers, ?pledged, sound.remembered_le,
    ?action_le⟩
  case owners =>
    have ids := congrArg (List.map Prod.fst) live
    simp only [List.map_map] at ids
    change clock.live.map Timer.id = line.clock.live.map Timer.id at ids
    rw [ids]
    exact sound.owners id
  case inForce =>
    obtain ⟨running, timer, found, number, action⟩ := sound.inForce id stored
    obtain ⟨timer', found', number', action'⟩ := stays timer found
    exact ⟨running, timer', found', number'.trans number, action'.trans action⟩
  case pledged =>
    intro call member generation id pledge
    obtain ⟨timer, found, number, action⟩ := sound.pledged call member generation id pledge
    obtain ⟨timer', found', number', action'⟩ := stays timer found
    exact ⟨timer', found', number'.trans number, action'.trans action⟩
  case action_le =>
    intro timer found
    obtain ⟨timer', found', action⟩ := came timer found
    exact action ▸ sound.action_le timer' found'

theorem Sound.effect {line after : Line Timers} {earlier later : List Call} {call next : Call}
    (sound : Sound ⟨line, earlier ++ call :: later⟩) (effect : Effect line call next after) :
    Sound ⟨after, earlier ++ next :: later⟩ := by
  cases effect with
  | quiet clock phase generation timer held arming pledge remembered =>
      exact sound.quiet clock phase generation timer held arming pledge remembered
  | supersede clock generation timer free held unarmed arming pledge remembered =>
      exact sound.supersede clock generation timer free held unarmed arming pledge remembered
  | drop clock phase generation timer held arming pledge remembered =>
      exact sound.drop clock phase generation timer held arming pledge remembered
  | arm timer live shared free held arming arming' pledge remembered =>
      exact sound.arm live shared free held arming arming' pledge remembered
  | install timer clock phase generation timer_eq held pledge arming held' arming' pledge'
      remembered' =>
      exact sound.install clock phase generation timer_eq held pledge arming held' arming' pledge'
        remembered'

/-- Every turn keeps the ownership. -/
theorem Sound.turn {before after : Race} (sound : Sound before) (turn : Turn before after) :
    Sound after := by
  cases turn with
  | request line calls call asked =>
      cases call with
      | start config => exact sound.join rfl rfl rfl (by simp [Call.remembered, Call.arming])
      | stop => exact sound.join rfl rfl rfl (by simp [Call.remembered, Call.arming])
      | setInterval interval => exact sound.join rfl rfl rfl (by simp [Call.remembered, Call.arming])
      | _ => cases asked
  | tick line calls timer found =>
      refine sound.join rfl rfl rfl fun generation known => ?_
      cases known
      exact sound.action_le timer found
  | elapse line calls clock live nextId => exact sound.elapse live
  | step line after earlier later call next taken => exact sound.effect (effect_of_step taken)

theorem Sound.turns {before after : Race} (sound : Sound before) (turns : Turns before after) :
    Sound after := by
  induction turns with
  | refl => exact sound
  | tail _ turn ih => exact ih.turn turn

theorem sound_start {task : String} {config : PollConfig} {canFetch : Bool} {engine : Engine}
    (made : Engine.idle? task config canFetch = some engine) : Sound (Race.start engine) := by
  obtain ⟨events, -, rfl⟩ := Option.map_eq_some_iff.mp made
  exact ⟨fun id => rfl, by simp [Race.start], rfl, by simp [Race.start], by simp [Race.start],
    by simp [Race.start, Timers.start]⟩

/-! ## Superseded timers -/

/-- Whether a race remembers a generation: by a live timer, or by a call. -/
def Race.Remembers (race : Race) (generation : Nat) : Prop :=
  (∃ timer ∈ race.line.clock.live, timer.action = generation) ∨
    ∃ call ∈ race.calls, call.remembered = some generation

theorem Sound.le_of_remembers {race : Race} (sound : Sound race) {generation : Nat}
    (remembers : race.Remembers generation) : generation ≤ race.line.shared.generation := by
  rcases remembers with ⟨timer, found, rfl⟩ | ⟨call, found, known⟩
  · exact sound.action_le timer found
  · exact sound.remembered_le call found generation known

theorem Effect.generation_le {line after : Line Timers} {call next : Call}
    (effect : Effect line call next after) :
    line.shared.generation ≤ after.shared.generation := by
  cases effect with
  | quiet clock phase generation => omega
  | supersede clock generation => omega
  | drop clock phase generation => omega
  | arm timer live shared => exact Nat.le_of_eq (by rw [shared])
  | install timer clock phase generation => omega

theorem generation_le_of_turns {before after : Race} (turns : Turns before after) :
    before.line.shared.generation ≤ after.line.shared.generation := by
  induction turns with
  | refl => exact Nat.le_refl _
  | tail _ turn ih =>
      refine Nat.le_trans ih ?_
      cases turn with
      | request | tick | elapse => exact Nat.le_refl _
      | step line after earlier later call next taken =>
          exact (effect_of_step taken).generation_le

theorem generation_of_supersedes {line after : Line Timers} {call next : Call}
    (supersedes : call.Supersedes line) (taken : step line call = some (next, after)) :
    after.shared.generation = line.shared.generation + 1 := by
  cases call with
  | takeOver config now =>
      cases taken
      rfl
  | stop =>
      cases taken
      rfl
  | setInterval interval =>
      obtain ⟨long, running⟩ := supersedes
      simp only [step] at taken
      rw [if_neg long, if_pos running] at taken
      cases taken
      rfl
  | check generation now =>
      obtain ⟨current, spent⟩ := supersedes
      rw [step_check, if_pos current, if_pos spent] at taken
      cases taken
      rfl
  | _ => cases supersedes

theorem step_check_of_lt {line : Line Timers} {generation : Nat}
    (superseded : generation < line.shared.generation) (now : Duration) :
    step line (.check generation now) = some (.done false, line) := by
  rw [step_check, if_neg fun current => Nat.ne_of_gt superseded current.1]

/-- Once a step has superseded the timers so far, no tick of theirs does anything any more. -/
theorem Sound.superseded {line after : Line Timers} {earlier later : List Call} {call next : Call}
    (sound : Sound ⟨line, earlier ++ call :: later⟩) (supersedes : call.Supersedes line)
    (taken : step line call = some (next, after)) {last : Race}
    (turns : Turns ⟨after, earlier ++ next :: later⟩ last) {generation : Nat}
    (remembers : Race.Remembers ⟨line, earlier ++ call :: later⟩ generation) (now : Duration) :
    step last.line (.check generation now) = some (.done false, last.line) := by
  have known := sound.le_of_remembers remembers
  have grown := generation_of_supersedes supersedes taken
  have kept := generation_le_of_turns turns
  dsimp only at known kept
  exact step_check_of_lt (by omega) now

/-! ## Timers held by calls -/

/-- Whether the next step of a call cancels a timer, whatever the state it finds. -/
def Call.Cancels (call : Call) (timer : Timer Nat) : Prop :=
  ∀ line : Line Timers, ∃ next after, step line call = some (next, after) ∧
    ∀ other ∈ after.clock.live, other.id ≠ timer.id

/-- Whether a call, whatever the state it finds, cancels a timer or puts it in force for the
generation that the timer carries, in its next step or, failing that, in the step after it. -/
def Call.Resolves (call : Call) (timer : Timer Nat) : Prop :=
  ∀ line : Line Timers, ∃ next after, step line call = some (next, after) ∧
    ((∀ other ∈ after.clock.live, other.id ≠ timer.id) ∨
      (after.shared.timer = some timer.id ∧ after.shared.generation = timer.action) ∨
      next.Cancels timer)

theorem not_mem_live_drop (line : Line Timers) (timer : Timer Nat) :
    ∀ other ∈ (line.drop (some timer.id)).clock.live, other.id ≠ timer.id := by
  intro other found
  simpa using (List.mem_filter.mp found).2

theorem Call.cancels_discard (timer : Timer Nat) (interval : Duration) (changed : Bool) :
    (Call.discard timer.id interval changed).Cancels timer := fun line =>
  ⟨_, _, rfl, not_mem_live_drop line timer⟩

theorem Call.resolves_of_held {call : Call} {timer : Timer Nat} (held : call.held = some timer.id)
    (pledge : ∀ generation id, call.pledge = some (generation, id) → generation = timer.action) :
    call.Resolves timer := by
  intro line
  cases call with
  | install generation id interval changed =>
      cases held
      by_cases current : line.shared.generation = generation
      · refine ⟨_, _, by simp only [step]; exact if_pos current, .inr (.inl ⟨?_, ?_⟩)⟩
        · rw [drop_shared]
          rfl
        · rw [drop_shared]
          exact current.trans (pledge generation _ rfl)
      · exact ⟨_, _, by simp only [step]; exact if_neg current,
          .inr (.inr (cancels_discard timer interval changed))⟩
  | dropFormer config now generation former =>
      cases held
      exact ⟨_, _, rfl, .inl (not_mem_live_drop _ timer)⟩
  | discard id interval changed =>
      cases held
      exact ⟨_, _, rfl, .inl (not_mem_live_drop _ timer)⟩
  | dropStopped id =>
      cases held
      exact ⟨_, _, rfl, .inl (not_mem_live_drop _ timer)⟩
  | dropReplaced interval generation former =>
      cases held
      exact ⟨_, _, rfl, .inl (not_mem_live_drop _ timer)⟩
  | dropExpired id elapsed =>
      cases held
      exact ⟨_, _, rfl, .inl (not_mem_live_drop _ timer)⟩
  | _ => cases held

/-- A live timer that is not in force is held by a call that resolves it. -/
theorem Sound.exists_resolves {race : Race} (sound : Sound race) {timer : Timer Nat}
    (found : timer ∈ race.line.clock.live) (other : race.line.shared.timer ≠ some timer.id) :
    ∃ call ∈ race.calls, call.held = some timer.id ∧ call.Resolves timer := by
  have owned := sound.owners timer.id
  have listed : 0 < (race.line.clock.live.map Timer.id).count timer.id :=
    List.count_pos_iff.mpr (List.mem_map_of_mem found)
  rw [if_neg other] at owned
  obtain ⟨call, member, holds⟩ := List.countP_pos_iff.mp
    (show 0 < race.calls.countP (fun call => call.held == some timer.id) by omega)
  have held := eq_of_beq holds
  refine ⟨call, member, held, Call.resolves_of_held held fun generation id pledge => ?_⟩
  obtain ⟨timer', found', number, action⟩ := sound.pledged call member generation id pledge
  rw [Call.held_of_pledge pledge, Option.some.injEq] at held
  rw [← action, Timers.eq_of_id_eq race.line.clock.ids_increasing found' found
    (number.trans held)]

/-! ## Races at rest -/

theorem Call.owes_nothing {call : Call} (ended : call.rank = 0) :
    call.held = none ∧ call.arming = none := by
  cases call <;> first | exact ⟨rfl, rfl⟩ | cases ended

theorem Sound.count_of_ended {race : Race} (sound : Sound race)
    (ended : ∀ call ∈ race.calls, call.rank = 0) :
    race.line.clock.count = if race.line.shared.phase = .running then 1 else 0 := by
  have free : ∀ id, race.calls.countP (fun call => call.held == some id) = 0 := fun id =>
    List.countP_eq_zero.mpr fun call found => by simp [(Call.owes_nothing (ended call found)).1]
  have unarmed : race.calls.countP
      (fun call => call.arming == some race.line.shared.generation) = 0 :=
    List.countP_eq_zero.mpr fun call found => by simp [(Call.owes_nothing (ended call found)).2]
  have armers := sound.armers
  rw [unarmed] at armers
  have stored : ∀ timer ∈ race.line.clock.live, race.line.shared.timer = some timer.id := by
    intro timer found
    refine Decidable.byContradiction fun other => ?_
    obtain ⟨call, member, held, -⟩ := sound.exists_resolves found other
    rw [(Call.owes_nothing (ended call member)).1] at held
    cases held
  cases inForce : race.line.shared.timer with
  | none =>
      have resting : race.line.shared.phase ≠ .running := by
        intro running
        rw [if_pos ⟨running, inForce⟩] at armers
        cases armers
      rw [if_neg resting, Timers.count, List.length_eq_zero_iff]
      refine List.eq_nil_iff_forall_not_mem.mpr fun timer found => ?_
      rw [stored timer found] at inForce
      cases inForce
  | some id =>
      obtain ⟨running, -⟩ := sound.inForce id inForce
      have owned := sound.owners id
      have all : ∀ other ∈ race.line.clock.live.map Timer.id, id = other := by
        intro other listed
        obtain ⟨timer, found, rfl⟩ := List.mem_map.mp listed
        rw [stored timer found] at inForce
        exact (Option.some.inj inForce).symm
      rw [List.count_eq_length.mpr all, List.length_map, if_pos inForce, free] at owned
      rw [if_pos running]
      exact owned

/-! ## The theorem -/

/-- However any number of calls and ticks interleave: the timer in force carries the current
generation and there is a session; every other live timer is held by an unfinished call that puts it
in force or cancels it; what a superseding step leaves behind never does anything again; and once
all calls have ended there is one timer in a session and none outside. -/
theorem one_timer_under_any_race {task : String} {config : PollConfig} {canFetch : Bool}
    {engine : Engine} (made : Engine.idle? task config canFetch = some engine) {race : Race}
    (reached : Turns (Race.start engine) race) :
    (∀ id, race.line.shared.timer = some id →
        race.line.shared.phase = .running ∧
          ∃ timer ∈ race.line.clock.live,
            timer.id = id ∧ timer.action = race.line.shared.generation) ∧
      (∀ timer ∈ race.line.clock.live, race.line.shared.timer ≠ some timer.id →
        ∃ call ∈ race.calls, call.rank ≠ 0 ∧ call.held = some timer.id ∧ call.Resolves timer) ∧
      (∀ earlier call later next after last, race.calls = earlier ++ call :: later →
        call.Supersedes race.line → step race.line call = some (next, after) →
        Turns ⟨after, earlier ++ next :: later⟩ last →
        ∀ generation, race.Remembers generation → ∀ now,
          step last.line (.check generation now) = some (.done false, last.line)) ∧
      ((∀ call ∈ race.calls, call.rank = 0) →
        race.line.clock.count = if race.line.shared.phase = .running then 1 else 0) := by
  have sound := (sound_start made).turns reached
  refine ⟨sound.inForce, ?_, ?_, sound.count_of_ended⟩
  · intro timer found other
    obtain ⟨call, member, held, resolves⟩ := sound.exists_resolves found other
    refine ⟨call, member, fun ended => ?_, held, resolves⟩
    rw [(Call.owes_nothing ended).1] at held
    cases held
  · intro earlier call later next after last split supersedes taken turns generation remembers now
    obtain ⟨line, calls⟩ := race
    subst split
    exact sound.superseded supersedes taken turns remembers now

/-- A session is being stopped, and the stop has not cancelled the timer yet. -/
theorem timer_of_unfinished_stop :
    ∃ engine race timer, Engine.idle? "watch" {} true = some engine ∧
      Turns (Race.start engine) race ∧ race.line.clock.live = [timer] ∧
        race.line.shared.timer = none ∧
        ∃ call ∈ race.calls, call.rank ≠ 0 ∧ call.held = some timer.id ∧ call.Resolves timer := by
  obtain ⟨engine, made⟩ : ∃ engine, Engine.idle? "watch" {} true = some engine := ⟨_, rfl⟩
  -- The line and the settings are kept from being unfolded, for the interval is a large number.
  obtain ⟨line, first⟩ : ∃ line : Line Timers, line = ⟨Timers.start, engine⟩ := ⟨_, rfl⟩
  obtain ⟨config, positive⟩ : ∃ config : PollConfig, config.intervalMs ≠ 0 := ⟨{}, by decide⟩
  have vacant : line.shared.timer = none := by
    obtain ⟨events, -, rfl⟩ := Option.map_eq_some_iff.mp made
    rw [first]
  have free : line.clock.live = [] := by
    rw [first]
    rfl
  have sum : line.clock.now.add? config.interval = some config.interval := by
    rw [first]
    exact Duration.add?_eq_some_iff.mpr (Nat.zero_add _).symm
  have scheduled := Timers.schedule?_eq line.clock (PollConfig.minPeriod_le_interval positive)
    (line.shared.generation + 1)
  rw [sum] at scheduled
  obtain ⟨clock, scheduled, -, live⟩ := scheduled
  rw [free, List.nil_append] at live
  have ran := run_start config line
  rw [vacant, drop_none, show Scheduler.schedule? _ _ _ = _ from scheduled] at ran
  obtain ⟨started, ran, -⟩ := ran
  have asked : Turns (Race.start engine) ⟨line, [.start config]⟩ := by
    rw [first]
    exact .single (.request _ _ (.start config) positive)
  obtain ⟨last, ended, turns⟩ := Race.turns_of_run ran [] []
  have stopping := ((asked.trans turns).tail (.request _ _ .stop trivial)).tail
    (.step _ _ [] _ _ _ rfl)
  obtain ⟨-, held, -, -⟩ := one_timer_under_any_race made stopping
  refine ⟨engine, _, _, made, stopping, live, rfl, held _ ?_ (by simp)⟩
  show _ ∈ clock.live
  rw [live]
  exact List.mem_singleton_self _

end ProbeWatch.Engine
