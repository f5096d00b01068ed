import Mathlib.Logic.Relation
import ProbeWatch.Proofs.Engine.Clockwork
import ProbeWatch.Proofs.Engine.Punctuality
import ProbeWatch.Proofs.Timer.Contract
import ProbeWatch.Proofs.Timer.Ticks

/-!
# Engines whose timers are tasks

An engine in a running program: its timers are tasks, which are polled in any order and as often as
one likes, and time passes between the polls.  As long as every tick takes place when it is due, the
engine does what it does on a clock that moves only when told.
-/

namespace ProbeWatch

open Engine

/-! ## Between operations -/

theorem Keeps.next?_now {canFetch : Bool} {origin : EventChannel} {line : Line Timers}
    {table : Timetable} (keeps : Keeps canFetch origin line table) :
    line.clock.next? line.clock.now = none := by
  cases inForce : table.inForce? with
  | none =>
      have vacant := keeps.vacant inForce
      rw [Timers.next?, vacant.live]
      rfl
  | some arming =>
      obtain ⟨id, due, -, live, next⟩ := (keeps.kept arming inForce).timer
      have late : ¬ due ≤ line.clock.now := by
        refine Nat.not_le_of_lt ?_
        rw [next]
        exact arming.now_lt_next (keeps.positive inForce) line.clock.now
      rw [Timers.next?_of_live_eq_singleton live, if_neg late]

/-! ## Clocks that show the same timers -/

/-- Whether two clocks have the same timers, whatever time they show. -/
structure Paced.Mirrors {α : Type} (paced : Paced α) (timers : Timers α) : Prop where
  nextId : paced.nextId = timers.nextId
  entries : paced.live.map PacedTimer.entry = timers.live.map Timer.entry

namespace Paced.Mirrors

variable {α : Type} {paced : Paced α} {timers : Timers α}

theorem exists_told (mirrors : paced.Mirrors timers) {timer : PacedTimer α}
    (among : timer ∈ paced.live) : ∃ told ∈ timers.live, told.due.nanos = timer.deadline := by
  have shown := List.mem_map_of_mem (f := PacedTimer.entry) among
  rw [mirrors.entries] at shown
  obtain ⟨told, inside, same⟩ := List.mem_map.mp shown
  exact ⟨told, inside, congrArg TimerEntry.due same⟩

theorem exists_paced (mirrors : paced.Mirrors timers) {told : Timer α}
    (among : told ∈ timers.live) : ∃ timer ∈ paced.live, timer.deadline = told.due.nanos := by
  have shown := List.mem_map_of_mem (f := Timer.entry) among
  rw [← mirrors.entries] at shown
  obtain ⟨timer, inside, same⟩ := List.mem_map.mp shown
  exact ⟨timer, inside, congrArg TimerEntry.due same⟩

theorem now_le_deadline (mirrors : paced.Mirrors timers) :
    ∀ timer ∈ paced.live, timers.now.nanos ≤ timer.deadline := by
  intro timer among
  obtain ⟨told, inside, due⟩ := mirrors.exists_told among
  rw [← due]
  exact timers.now_le_due told inside

theorem lt_deadline (mirrors : paced.Mirrors timers) {target : Duration}
    (quiet : timers.next? target = none) :
    ∀ timer ∈ paced.live, target.nanos < timer.deadline := by
  intro timer among
  obtain ⟨told, inside, due⟩ := mirrors.exists_told among
  rw [← due]
  exact Timers.lt_due_of_next? quiet told inside

theorem exists_singleton (mirrors : paced.Mirrors timers) {told : Timer α}
    (only : timers.live = [told]) :
    ∃ timer, paced.live = [timer] ∧ timer.entry = told.entry := by
  have entries := mirrors.entries
  rwa [only, List.map_singleton, List.map_eq_singleton_iff] at entries

theorem schedule? (mirrors : paced.Mirrors timers) (now : paced.now = timers.now)
    {period : Duration} {action : α} {id : Nat} {after : Timers α}
    (granted : timers.schedule? period action = some (id, after)) :
    (paced.schedule period action).1 = id ∧ after.now = timers.now ∧
      (paced.schedule period action).2.Mirrors after := by
  obtain ⟨rfl, nextId, stays, due, sum, live⟩ := Timers.fields_of_schedule? granted
  refine ⟨mirrors.nextId, stays, ?_, ?_⟩
  · rw [nextId, ← mirrors.nextId]
    rfl
  · rw [live, List.map_append, ← mirrors.entries]
    simp [Paced.schedule, PacedTimer.entry, Timer.entry, sum, now, mirrors.nextId]

theorem cancel (mirrors : paced.Mirrors timers) (id : Nat) :
    (paced.cancel id).Mirrors (timers.cancel id) := by
  refine ⟨mirrors.nextId, ?_⟩
  have cancelled := congrArg (List.filter (·.id != id)) mirrors.entries
  rw [List.filter_map, List.filter_map] at cancelled
  exact cancelled

theorem fire (mirrors : paced.Mirrors timers) {told : Timer α} (only : timers.live = [told])
    (first : Timers.earliest? timers.live = some told) {due : Duration} (later : told.due ≤ due)
    (sum : told.due.add? told.period = some due) {timer : PacedTimer α}
    (same : timer.entry = told.entry) {after : Paced α} (nextId : after.nextId = paced.nextId)
    (live : after.live = [timer.renew told.due]) :
    after.Mirrors (timers.fire told first due later) := by
  refine ⟨nextId.trans mirrors.nextId, ?_⟩
  simp only [PacedTimer.entry, Timer.entry, TimerEntry.mk.injEq] at same
  obtain ⟨id, period, deadline, action⟩ := same
  rw [live, Timers.live_fire_of_live_eq_singleton only]
  simp only [PacedTimer.renew, PacedTimer.entry, Timer.entry, List.map_singleton, id, period,
    deadline, action, ite_self, Duration.add?_eq_some_iff.mp sum]

end Paced.Mirrors

namespace Engine

/-- Whether a clock of a running program answers as one that moves only when told. -/
def ShowsSame (paced : Paced Nat) (timers : Timers Nat) : Prop :=
  paced.now = timers.now ∧ paced.Mirrors timers

theorem ShowsSame.schedule? {paced : Paced Nat} {timers after : Timers Nat}
    (shows : ShowsSame paced timers) {period : Duration} {generation id : Nat}
    (granted : timers.schedule? period generation = some (id, after)) :
    (paced.schedule period generation).1 = id ∧
      ShowsSame (paced.schedule period generation).2 after := by
  obtain ⟨now, mirrors⟩ := shows
  obtain ⟨given, stays, mirrors'⟩ := mirrors.schedule? now granted
  exact ⟨given, now.trans stays.symm, mirrors'⟩

theorem alike_paced : Alike ShowsSame where
  now shows := shows.1
  schedule? shows _ _ _ _ granted := by
    obtain ⟨given, shows'⟩ := shows.schedule? granted
    exact ⟨_, congrArg some (Prod.ext given rfl), shows'⟩
  cancel shows id := ⟨shows.1, shows.2.cancel id⟩

theorem alike_runtime :
    Alike fun (runtime : Runtime Nat) (timers : Timers Nat) => ShowsSame runtime.paced timers where
  now shows := shows.1
  schedule? {clock _} shows period generation _ _ granted := by
    obtain ⟨given, shows'⟩ := shows.schedule? granted
    obtain ⟨number, scheduled⟩ := clock.paced_schedule period generation
    rw [← number] at given
    rw [← scheduled] at shows'
    exact ⟨_, congrArg some (Prod.ext given rfl), shows'⟩
  cancel {clock clock'} shows id := by
    have cancelled : ShowsSame (clock.paced.cancel id) (clock'.cancel id) :=
      ⟨shows.1, shows.2.cancel id⟩
    rwa [← clock.paced_cancel] at cancelled

/-! ## Runs -/

/-- Polls a task.  The engine reacts to the tick, if there is one. -/
def pollTask? (line : Line Runtime) (position : Nat) : Option (Line Runtime) :=
  (line.clock.poll? position).bind fun (clock, ticked) =>
    match ticked with
    | none => some { line with clock }
    | some timer => tick? timer.action { line with clock }

/-- What happens between two operations. -/
inductive Stirs : Line Runtime → Line Runtime → Prop
  /-- One of the tasks is polled. -/
  | poll {line after : Line Runtime} {position : Nat}
      (polled : pollTask? line position = some after) : Stirs line after
  /-- Time passes, as far as nothing is due. -/
  | pass {line : Line Runtime} {instant : Duration} (passes : line.clock.MayPass instant) :
      Stirs line { line with clock := line.clock.atTime instant }

/-- Time goes on by some nanoseconds, and whatever is due by then takes place. -/
def Elapses (span : Nat) (line after : Line Runtime) : Prop :=
  Relation.ReflTransGen Stirs line after ∧
    after.clock.now.nanos = line.clock.now.nanos + span ∧ after.clock.IsServed

/-- Operations are carried out one after the other.  Before an operation whatever is due takes
place. -/
inductive Carries : List Operation → Line Runtime → Line Runtime → Prop
  | done (line : Line Runtime) : Carries [] line line
  | advance {span : Duration} {rest : List Operation} {line middle after : Line Runtime}
      (elapses : Elapses span.nanos line middle) (carries : Carries rest middle after) :
      Carries (.advance span :: rest) line after
  | call {operation : Operation} {rest : List Operation} {line middle next after : Line Runtime}
      (elapses : Elapses 0 line middle) (called : call? middle operation = some next)
      (carries : Carries rest next after) : Carries (operation :: rest) line after

/-! ## Being on the way to an instant -/

theorem exists_of_advanceTo {target : Duration} {line final : Line Timers} {timer : Timer Nat}
    (next : line.clock.next? target = some timer)
    (advanced : Timers.advanceTo reaction target line = some final) :
    ∃ (due : Duration) (after : Line Timers)
      (first : Timers.earliest? line.clock.live = some timer) (later : timer.due ≤ due),
      timer.due.add? timer.period = some due ∧
        reaction.run timer.action { line with clock := line.clock.fire timer first due later } =
          some after ∧
        Timers.advanceTo reaction target after = some final ∧
        Prod.Lex (· < ·) (· < ·) (after.clock.remaining target) (line.clock.remaining target) := by
  fun_induction Timers.advanceTo reaction target line with
  | case1 line quiet =>
      rw [quiet] at next
      cases next
  | case2 => cases advanced
  | case3 => cases advanced
  | case4 line first next' due sum later fired after effect =>
      rw [next] at next'
      cases next'
      exact ⟨due, after, (Timers.earliest?_of_next? next).1, Nat.le_of_lt later, sum, effect,
        advanced, Timers.remaining_lt next later (reaction.settles _ _ _ effect)⟩

/-- A running program is on the way to where an advance to `target` leads: what is left of the
advance on the other clock, which shows the time of the last tick, leads to `final`. -/
structure Tracks (target : Duration) (final : Line Timers) (line : Line Runtime)
    (told : Line Timers) : Prop where
  shared : line.shared = told.shared
  mirrors : line.clock.paced.Mirrors told.clock
  now_le : told.clock.now ≤ line.clock.now
  now_le_deadline : ∀ timer ∈ line.clock.paced.live, line.clock.now.nanos ≤ timer.deadline
  keeps : ∃ canFetch origin table, Keeps canFetch origin told table
  leads : Timers.advanceTo reaction target told = some final

namespace Tracks

variable {target : Duration} {final told : Line Timers} {line : Line Runtime}

theorem exists_next (tracks : Tracks target final line told) (inTime : line.clock.now ≤ target)
    {timer : PacedTimer Nat} {earlier later : List (PacedTimer Nat)}
    (live : line.clock.paced.live = earlier ++ timer :: later)
    (due : timer.deadline ≤ line.clock.now.nanos) :
    ∃ first, told.clock.live = [first] ∧ earlier = [] ∧ later = [] ∧
      timer.entry = first.entry ∧ first.due = line.clock.now ∧
      told.clock.next? target = some first := by
  have among : timer ∈ line.clock.paced.live := by simp [live]
  have onTime := tracks.now_le_deadline timer among
  obtain ⟨other, inside, -⟩ := tracks.mirrors.exists_told among
  cases next : Timers.earliest? told.clock.live with
  | none =>
      rw [Timers.earliest?_eq_none next] at inside
      cases inside
  | some first =>
      obtain ⟨canFetch, origin, table, keeps⟩ := tracks.keeps
      obtain ⟨-, -, only⟩ := keeps.arming_of_earliest? next
      obtain ⟨single, live', same⟩ := tracks.mirrors.exists_singleton only
      obtain ⟨rfl, rfl, rfl⟩ : earlier = [] ∧ timer = single ∧ later = [] := by
        simpa [live, List.append_eq_singleton_iff] using live'
      have dues : timer.deadline = first.due.nanos := congrArg TimerEntry.due same
      have now : first.due = line.clock.now := Duration.ext (by omega)
      refine ⟨first, only, rfl, rfl, same, now, ?_⟩
      rw [Timers.next?_of_live_eq_singleton only, now, if_pos inTime]

/-- A tick of a task is the next tick of the advance. -/
theorem tick (tracks : Tracks target final line told) (inTime : line.clock.now ≤ target)
    {position : Nat} {clock : Runtime Nat} {timer : PacedTimer Nat}
    (polled : line.clock.poll? position = some (clock, some timer)) :
    ∃ after told', pollTask? line position = some after ∧ Tracks target final after told' ∧
      after.clock.now = line.clock.now ∧
      Prod.Lex (· < ·) (· < ·) (told'.clock.remaining target) (told.clock.remaining target) := by
  rcases line.clock.paced_poll polled with
    ⟨none, -⟩ | ⟨_, earlier, later, same, due, live, moved⟩
  · cases none
  cases same
  obtain ⟨first, only, rfl, rfl, entry, now, next⟩ := tracks.exists_next inTime live due
  obtain ⟨due', told', earliest, later', sum, effect, leads, nearer⟩ :=
    exists_of_advanceTo next tracks.leads
  obtain ⟨canFetch, origin, table, keeps⟩ := tracks.keeps
  obtain ⟨arming, inForce, -⟩ := keeps.arming_of_earliest? earliest
  obtain ⟨_, effect', keeps'⟩ := keeps.fire inForce only earliest later' sum
  rw [effect] at effect'
  cases effect'
  -- The tick is on time, so that the next one is due one period later on both clocks.
  have mirrors : clock.paced.Mirrors (told.clock.fire first earliest due' later') := by
    refine tracks.mirrors.fire only earliest later' sum entry ?_ ?_
    · rw [moved]
    · rw [moved, now]
      rfl
  have shows : ShowsSame clock.paced (told.clock.fire first earliest due' later') := by
    refine ⟨?_, mirrors⟩
    rw [moved]
    exact now.symm
  have level : Beside (fun runtime timers => ShowsSame runtime.paced timers)
      (⟨clock, line.shared⟩ : Line Runtime)
      (⟨told.clock.fire first earliest due' later', told.shared⟩ : Line Timers) :=
    ⟨tracks.shared, shows⟩
  obtain ⟨after, ticked, beside⟩ := level.tick? alike_runtime effect
  have action : timer.action = first.action := congrArg TimerEntry.action entry
  have stays : after.clock.now = first.due := beside.clock.1.trans keeps'.now
  refine ⟨after, told', ?_, ⟨beside.shared, beside.clock.2, ?_, ?_, ⟨_, _, _, keeps'⟩, leads⟩,
    stays.trans now, nearer⟩
  · simp only [pollTask?, polled, Option.bind_some, action]
    exact ticked
  · exact Nat.le_of_eq (congrArg Duration.nanos beside.clock.1.symm)
  · intro other among
    have early := beside.clock.2.now_le_deadline other among
    rwa [← beside.clock.1] at early

theorem poll (tracks : Tracks target final line told) {position : Nat} {clock : Runtime Nat}
    (polled : line.clock.poll? position = some (clock, none)) :
    Tracks target final { line with clock } told := by
  rcases line.clock.paced_poll polled with ⟨-, same⟩ | ⟨_, _, _, some, -⟩
  · have now : clock.now = line.clock.now := congrArg Paced.now same
    refine ⟨tracks.shared, ?_, ?_, ?_, tracks.keeps, tracks.leads⟩
    · rw [same]
      exact tracks.mirrors
    · rw [now]
      exact tracks.now_le
    · rw [same, now]
      exact tracks.now_le_deadline
  · cases some

theorem pass (tracks : Tracks target final line told) {instant : Duration}
    (passes : line.clock.MayPass instant) :
    Tracks target final { line with clock := line.clock.atTime instant } told := by
  have same := Runtime.paced_atTime passes
  obtain ⟨forward, -, polled⟩ := passes
  refine ⟨tracks.shared, ?_, Nat.le_trans tracks.now_le forward, ?_, tracks.keeps, tracks.leads⟩
  · rw [same]
    exact ⟨tracks.mirrors.nextId, tracks.mirrors.entries⟩
  · intro timer among
    obtain ⟨task, among, driven⟩ := List.mem_filterMap.mp among
    cases held : task.cancelled with
    | true =>
        rw [TimerTask.timer?, held] at driven
        cases driven
    | false =>
        obtain ⟨deadline, known, inTime⟩ := polled task among held
        rw [TimerTask.timer?_of_held held, known] at driven
        cases driven
        exact inTime

theorem stir (tracks : Tracks target final line told) {after : Line Runtime}
    (stirs : Stirs line after) (inTime : line.clock.now ≤ target) :
    ∃ told', Tracks target final after told' := by
  cases stirs with
  | poll polled =>
      obtain ⟨⟨clock, ticked⟩, came, reacts⟩ := Option.bind_eq_some_iff.mp polled
      cases ticked with
      | none =>
          cases reacts
          exact ⟨told, tracks.poll came⟩
      | some timer =>
          obtain ⟨after', told', polled', tracks', -⟩ := tracks.tick inTime came
          rw [polled] at polled'
          cases polled'
          exact ⟨told', tracks'⟩
  | pass passes => exact ⟨told, tracks.pass passes⟩

end Tracks

/-- A property of the clock that polls keep, besides new timers and the end of timers, is kept by
polls to which an engine reacts. -/
theorem IsKept.pollTask? {P : Runtime Nat → Prop} (kept : IsKept P) {line after : Line Runtime}
    {position : Nat} (polled : pollTask? line position = some after)
    (polls : ∀ {clock ticked}, line.clock.poll? position = some (clock, ticked) → P clock) :
    P after.clock := by
  obtain ⟨⟨clock, ticked⟩, came, reacts⟩ := Option.bind_eq_some_iff.mp polled
  cases ticked with
  | none =>
      cases reacts
      exact polls came
  | some timer => exact kept.tick? (polls came) reacts

theorem now_of_poll? {α : Type} {runtime after : Runtime α} {position : Nat}
    {ticked : Option (PacedTimer α)} (polled : runtime.poll? position = some (after, ticked)) :
    after.now = runtime.now := by
  rcases runtime.paced_poll polled with ⟨-, same⟩ | ⟨_, _, _, -, -, -, moved⟩
  · exact congrArg Paced.now same
  · exact congrArg Paced.now moved

theorem isKept_now (instant : Duration) :
    IsKept fun clock : Runtime Nat => clock.now = instant where
  schedule? now granted := by
    cases granted
    exact now
  cancel now _ := now

theorem now_le_of_stirs {line after : Line Runtime} (stirs : Stirs line after) :
    line.clock.now ≤ after.clock.now := by
  cases stirs with
  | poll polled =>
      have now : after.clock.now = line.clock.now :=
        (isKept_now line.clock.now).pollTask? polled now_of_poll?
      rw [now]
      exact Nat.le_refl _
  | pass passes => exact passes.1

/-- Whatever happens to the tasks up to the target, in any order, the program stays on its way. -/
theorem Tracks.elapse {target : Duration} {final told : Line Timers} {line after : Line Runtime}
    (tracks : Tracks target final line told) (stirs : Relation.ReflTransGen Stirs line after)
    (inTime : after.clock.now ≤ target) : ∃ told', Tracks target final after told' := by
  induction stirs with
  | refl => exact ⟨told, tracks⟩
  | tail _ last ih =>
      have before := Nat.le_trans (now_le_of_stirs last) inTime
      obtain ⟨told', tracks'⟩ := ih before
      exact tracks'.stir last before

/-! ## Arriving -/

/-- The same engine on both clocks, which show the same time and the same timers. -/
structure Level (line : Line Runtime) (told : Line Timers) : Prop where
  shared : line.shared = told.shared
  shows : ShowsSame line.clock.paced told.clock
  keeps : ∃ canFetch origin table, Keeps canFetch origin told table

variable {target : Duration} {final told : Line Timers} {line : Line Runtime}

theorem Level.tracks (level : Level line told)
    (leads : Timers.advanceTo reaction target told = some final) :
    Tracks target final line told := by
  obtain ⟨shared, ⟨now, mirrors⟩, keeps⟩ := level
  have same : line.clock.now = told.clock.now := now
  refine ⟨shared, mirrors, ?_, ?_, keeps, leads⟩
  · rw [same]
    exact Nat.le_refl _
  · rw [same]
    exact mirrors.now_le_deadline

/-- On the other clock nothing more is due once everything is served. -/
theorem Tracks.next?_eq_none (tracks : Tracks target final line told)
    (served : ∀ timer ∈ line.clock.paced.live, target.nanos < timer.deadline) :
    told.clock.next? target = none := by
  rw [Timers.next?, Option.filter_eq_none_iff]
  intro first earliest
  obtain ⟨timer, among, due⟩ := tracks.mirrors.exists_paced (Timers.earliest?_mem earliest)
  have late := served timer among
  rw [due] at late
  exact fun inTime => absurd (of_decide_eq_true inTime) (Nat.not_le_of_lt late)

/-- A program that has served everything up to the target is where the advance leads. -/
theorem Tracks.level (tracks : Tracks target final line told) (arrived : line.clock.now = target)
    (served : line.clock.IsServed) : Level line final := by
  subst arrived
  have quiet := tracks.next?_eq_none served
  obtain ⟨canFetch, origin, table, keeps⟩ := tracks.keeps
  have forward : table.clock ≤ line.clock.now := by
    rw [← keeps.now]
    exact tracks.now_le
  obtain rfl := Option.some.inj ((Timers.advanceTo_of_quiet told quiet).symm.trans tracks.leads)
  exact ⟨tracks.shared, ⟨rfl, tracks.mirrors.nextId, tracks.mirrors.entries⟩, canFetch, origin, _,
    (keeps.rest forward quiet).1⟩

/-! ## Operations -/

theorem Level.elapse (level : Level line told) {span : Nat} {after : Line Runtime}
    (elapses : Elapses span line after) (sum : target.nanos = told.clock.now.nanos + span)
    (leads : Timers.advanceTo reaction target told = some final) : Level after final := by
  obtain ⟨stirs, arrived, served⟩ := elapses
  have start : line.clock.now = told.clock.now := level.shows.1
  have reached : after.clock.now = target := Duration.ext (by rw [arrived, start, sum])
  obtain ⟨told', tracks⟩ := (level.tracks leads).elapse stirs (by rw [reached]; exact Nat.le_refl _)
  exact tracks.level reached served

theorem Level.advanceTo_now (level : Level line told) :
    Timers.advanceTo reaction told.clock.now told = some told := by
  obtain ⟨canFetch, origin, table, keeps⟩ := level.keeps
  exact Timers.advanceTo_of_quiet told keeps.next?_now

/-- An advance of a running program leads where the advance of the other clock does. -/
theorem Level.advance (level : Level line told) {span : Duration} {after : Line Runtime}
    (elapses : Elapses span.nanos line after)
    (advanced : perform? told (.advance span) = some final) : Level after final := by
  obtain ⟨target, sum, leads⟩ := Option.bind_eq_some_iff.mp advanced
  exact level.elapse elapses (Timers.nanos_of_add? sum) leads

theorem Level.call (level : Level line told) {operation : Operation}
    (called : call? told operation = some final) :
    ∃ after, call? line operation = some after ∧ Level after final := by
  obtain ⟨after, called', beside⟩ :=
    Beside.call? alike_runtime ⟨level.shared, level.shows⟩ called
  obtain ⟨canFetch, origin, table, keeps⟩ := level.keeps
  obtain ⟨table', -, keeps'⟩ := keeps.exists_perform ((perform?_of_call? called told).trans called)
  exact ⟨after, called', beside.shared, beside.clock, canFetch, origin, table', keeps'⟩

/-- Every run of the program leads where the same operations lead on the other clock. -/
theorem Level.carries {operations : List Operation} {after : Line Runtime}
    (carries : Carries operations line after) (level : Level line told)
    (performed : performAll? operations told = some final) : Level after final := by
  induction carries generalizing told with
  | done line =>
      cases performed
      exact level
  | advance elapses _ ih =>
      rw [performAll?, List.foldlM_cons] at performed
      obtain ⟨middle, first, rest⟩ := Option.bind_eq_some_iff.mp performed
      exact ih (level.advance elapses first) rest
  | call elapses called _ ih =>
      rw [performAll?, List.foldlM_cons] at performed
      obtain ⟨next, first, rest⟩ := Option.bind_eq_some_iff.mp performed
      have level' := level.elapse elapses rfl level.advanceTo_now
      obtain ⟨_, called', level''⟩ := level'.call ((perform?_of_call? called told).symm.trans first)
      rw [called] at called'
      cases called'
      exact ih level'' rest

/-! ## Going on -/

theorem Tracks.exists_unpolled_eq_zero {line : Line Runtime}
    (tracks : Tracks target final line told) :
    ∃ after, Relation.ReflTransGen Stirs line after ∧ Tracks target final after told ∧
      after.clock.now = line.clock.now ∧ after.clock.unpolled = 0 := by
  by_cases ready : line.clock.unpolled = 0
  · exact ⟨line, .refl, tracks, rfl, ready⟩
  · obtain ⟨position, clock, polled, fewer⟩ := Runtime.exists_poll_of_unpolled ready
    obtain ⟨after, stirs, tracks', now, ready'⟩ := (tracks.poll polled).exists_unpolled_eq_zero
    have first : pollTask? line position = some { line with clock } := by
      rw [pollTask?, polled]
      rfl
    exact ⟨after, .head (.poll first) stirs, tracks', now.trans (now_of_poll? polled), ready'⟩
termination_by line.clock.unpolled
decreasing_by exact fewer

theorem Tracks.exists_due (tracks : Tracks target final line told)
    (ready : line.clock.unpolled = 0) {first : Timer Nat}
    (next : told.clock.next? target = some first) :
    ∃ after timer, Relation.ReflTransGen Stirs line after ∧ Tracks target final after told ∧
      after.clock.now = first.due ∧ after.clock.unpolled = 0 ∧
      timer ∈ after.clock.paced.live ∧ timer.deadline = first.due.nanos := by
  obtain ⟨canFetch, origin, table, keeps⟩ := tracks.keeps
  obtain ⟨-, -, only⟩ := keeps.arming_of_earliest? (Timers.earliest?_of_next? next).1
  obtain ⟨timer, live, same⟩ := tracks.mirrors.exists_singleton only
  have due : timer.deadline = first.due.nanos := congrArg TimerEntry.due same
  have among : timer ∈ line.clock.paced.live := by simp [live]
  rcases Nat.lt_or_eq_of_le (tracks.now_le_deadline timer among) with early | now
  · have passes : line.clock.MayPass first.due := by
      refine Runtime.mayPass_of_lt ready ?_ ?_ ?_
      · exact Nat.le_of_lt (due ▸ early)
      · rw [Runtime.IsServed, live]
        simpa using early
      · rw [live]
        simpa using Nat.le_of_eq due.symm
    refine ⟨_, timer, .single (.pass passes), tracks.pass passes, rfl, ready, ?_, due⟩
    rw [Runtime.paced_atTime passes]
    exact among
  · exact ⟨line, timer, .refl, tracks, Duration.ext (now.trans due), ready, among, due⟩

/-- A program on its way can go on until it arrives. -/
theorem Tracks.exists_arrival {line : Line Runtime} {told : Line Timers}
    (tracks : Tracks target final line told) (inTime : line.clock.now ≤ target) :
    ∃ after, Relation.ReflTransGen Stirs line after ∧ after.clock.now = target ∧
      after.clock.IsServed := by
  obtain ⟨polled, polls, tracks, now, ready⟩ := tracks.exists_unpolled_eq_zero
  rw [← now] at inTime
  cases next : told.clock.next? target with
  | none =>
      have late := tracks.mirrors.lt_deadline next
      have passes : polled.clock.MayPass target :=
        Runtime.mayPass_of_lt ready inTime
          (fun timer among => Nat.lt_of_le_of_lt inTime (late timer among))
          fun timer among => Nat.le_of_lt (late timer among)
      refine ⟨_, polls.tail (.pass passes), rfl, ?_⟩
      rw [Runtime.IsServed, Runtime.paced_atTime passes]
      exact late
  | some first =>
      obtain ⟨reached, timer, waits, tracks, now, ready, among, due⟩ := tracks.exists_due ready next
      have onTime : timer.deadline ≤ reached.clock.now.nanos := Nat.le_of_eq (by rw [now, due])
      have before : reached.clock.now ≤ target := by
        rw [now]
        exact (Timers.earliest?_of_next? next).2
      obtain ⟨position, clock, came⟩ := Runtime.exists_poll_of_due ready among onTime
      obtain ⟨ticked, told', ticks, tracks', stays, nearer⟩ := tracks.tick before came
      obtain ⟨after, rest, arrived, served⟩ := tracks'.exists_arrival (by rw [stays]; exact before)
      exact ⟨after, polls.trans (waits.trans (.head (.poll ticks) rest)), arrived, served⟩
termination_by told.clock.remaining target
decreasing_by exact nearer

theorem Level.exists_elapses (level : Level line told) {span : Nat}
    (sum : target.nanos = told.clock.now.nanos + span)
    (leads : Timers.advanceTo reaction target told = some final) :
    ∃ after, Elapses span line after ∧ Level after final := by
  have start : line.clock.now = told.clock.now := level.shows.1
  have inTime : line.clock.now ≤ target := by
    rw [start]
    show told.clock.now.nanos ≤ target.nanos
    omega
  obtain ⟨after, stirs, arrived, served⟩ := (level.tracks leads).exists_arrival inTime
  have elapses : Elapses span line after := ⟨stirs, by rw [arrived, start, sum], served⟩
  exact ⟨after, elapses, level.elapse elapses sum leads⟩

/-- A program that is level with the other clock can carry out whatever the other one can. -/
theorem Level.exists_carries {operations : List Operation} {line : Line Runtime}
    {told : Line Timers} (level : Level line told)
    (performed : performAll? operations told = some final) :
    ∃ after, Carries operations line after := by
  induction operations generalizing line told with
  | nil => exact ⟨line, .done line⟩
  | cons operation rest ih =>
      rw [performAll?, List.foldlM_cons] at performed
      obtain ⟨next, first, others⟩ := Option.bind_eq_some_iff.mp performed
      rcases perform?_cases told operation with ⟨span, rfl⟩ | call
      · obtain ⟨target, sum, leads⟩ := Option.bind_eq_some_iff.mp first
        obtain ⟨middle, elapses, level'⟩ := level.exists_elapses (Timers.nanos_of_add? sum) leads
        obtain ⟨after, carries⟩ := ih level' others
        exact ⟨after, .advance elapses carries⟩
      · obtain ⟨middle, elapses, level'⟩ :=
          level.exists_elapses (Nat.add_zero _).symm level.advanceTo_now
        obtain ⟨middle', called, level''⟩ := level'.call (call.symm.trans first)
        obtain ⟨after, carries⟩ := ih level'' others
        exact ⟨after, .call elapses called carries⟩

end Engine
end ProbeWatch
