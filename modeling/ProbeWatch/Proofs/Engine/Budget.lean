import ProbeWatch.Proofs.Engine.Lifecycle

/-!
# Time budgets

How long a session can outlast its time budget.  Only ticks look at the budget, and every change of
the interval puts the next tick off by a whole interval.  A session is over within one interval of
the end of its budget or of the last change, whichever is later; changes that follow each other
sooner keep it going.
-/

namespace ProbeWatch

open Engine

/-! ## Chronicles -/

/-- The armings of the last session, latest first, after an operation at an instant in a phase. -/
def rearmed (now : Duration) (phase : PollPhase) (armings : List Arming) :
    Operation → List Arming
  | .start config =>
      if config.intervalMs = 0 then armings
      else [⟨now, config.maxDuration?, now, config.interval⟩]
  | .setInterval interval =>
      if interval < PollConfig.minInterval ∨ phase ≠ .running then armings
      else
        match armings with
        | [] => []
        | last :: earlier => { last with armedAt := now, period := interval } :: last :: earlier
  | .stop | .advance _ => armings

/-- An operation on an engine, with the armings of the last session. -/
def Engine.chronicle? (state : Line Timers × List Arming) (operation : Operation) :
    Option (Line Timers × List Arming) :=
  (perform? state.1 operation).map
    (·, rearmed state.1.clock.now state.1.shared.phase state.2 operation)

/-- Operations on an engine one after the other, with the armings of the last session. -/
def Engine.chronicleAll? (operations : List Operation) (line : Line Timers) :
    Option (Line Timers × List Arming) :=
  operations.foldlM chronicle? (line, [])

/-- An operation on a timetable, with the armings of the last session. -/
def Timetable.chronicle? (state : Timetable × List Arming) (operation : Operation) :
    Option (Timetable × List Arming) :=
  (state.1.next? operation).map (·, rearmed state.1.clock state.1.phase state.2 operation)

/-- Operations on a timetable one after the other, with the armings of the last session. -/
def Timetable.chronicleAll? (operations : List Operation) (table : Timetable) :
    Option (Timetable × List Arming) :=
  operations.foldlM chronicle? (table, [])

theorem Engine.map_fst_chronicle (operations : List Operation) (line : Line Timers)
    (armings : List Arming) :
    (operations.foldlM Engine.chronicle? (line, armings)).map Prod.fst =
      performAll? operations line := by
  induction operations generalizing line armings with
  | nil => rfl
  | cons operation rest ih =>
      rw [performAll?, List.foldlM_cons, List.foldlM_cons]
      cases performed : perform? line operation with
      | none => simp [Engine.chronicle?, performed]
      | some middle =>
          simp only [Engine.chronicle?, performed, Option.map_some, Option.bind_eq_bind,
            Option.bind_some]
          exact ih middle _

/-! ## The latest arming -/

namespace Timetable

theorem inForce?_of_advance {table after : Timetable} {span : Duration}
    (followed : table.next? (.advance span) = some after) {arming : Arming}
    (inForce : after.inForce? = some arming) : table.inForce? = some arming := by
  obtain ⟨target, sum, moved⟩ := Option.bind_eq_some_iff.mp followed
  split at moved
  · cases moved
    obtain ⟨last, going⟩ := inForce?_eq_some_iff.mp inForce
    refine inForce?_eq_some_iff.mpr ⟨last, ?_⟩
    -- A session that is going at the end of an advance was going at its start.
    cases ended : arming.expiry? table.clock with
    | none => rfl
    | some time =>
        cases going.symm.trans (Arming.expired_stays (Timers.le_of_add? sum) ended).1
  · cases moved

/-- Whether the arming in force is the latest of a session. -/
def IsLatest (armings : List Arming) (table : Timetable) : Prop :=
  ∀ arming, table.inForce? = some arming → armings.head? = some arming

/-- An operation arms the timer or leaves the latest arming alone. -/
theorem IsLatest.next {armings : List Arming} {table after : Timetable}
    (latest : IsLatest armings table) {operation : Operation}
    (followed : table.next? operation = some after) :
    IsLatest (rearmed table.clock table.phase armings operation) after := by
  cases operation with
  | start config =>
      simp only [next?, rearmed] at followed ⊢
      split at followed
      · rename_i zero
        rw [if_pos zero]
        cases followed
        exact latest
      · rename_i positive
        rw [if_neg positive]
        obtain ⟨due, -, rfl⟩ := Option.map_eq_some_iff.mp followed
        intro arming inForce
        exact (inForce?_eq_some_iff.mp inForce).1
  | stop =>
      cases followed
      intro arming inForce
      cases (inForce?_eq_some_iff.mp inForce).1
  | setInterval interval =>
      simp only [next?, rearmed] at followed ⊢
      by_cases short : interval < PollConfig.minInterval
      · rw [if_pos short] at followed
        rw [if_pos (.inl short)]
        cases followed
        exact latest
      · rw [if_neg short] at followed
        cases inForce : table.inForce? with
        | none =>
            rw [if_pos (.inr (phase_ne_running inForce))]
            rw [inForce] at followed
            cases followed
            intro arming inForce'
            cases (inForce?_eq_some_iff.mp inForce').1
        | some arming =>
            have running := phase_of_inForce? inForce
            rw [if_neg (by simp [short, running])]
            rw [inForce] at followed
            obtain ⟨due, -, rfl⟩ := Option.map_eq_some_iff.mp followed
            intro arming' inForce'
            rw [← (inForce?_eq_some_iff.mp inForce').1]
            cases armings with
            | nil => cases latest arming inForce
            | cons last earlier =>
                cases latest arming inForce
                rfl
  | advance span =>
      intro arming inForce
      exact latest arming (inForce?_of_advance followed inForce)

end Timetable

/-! ## The end of the budget -/

/-- As long as an arming has not ended its session, its last tick was within the budget, and the
next one is less than a period away. -/
theorem Arming.now_lt {arming : Arming} {now : Duration} (positive : 0 < arming.period.nanos)
    (armedAt_le : arming.armedAt ≤ now) {budget : Duration}
    (limited : arming.budget = some budget) (going : arming.expiry? now = none) :
    now.nanos <
      max (arming.startedAt.nanos + budget.nanos) arming.armedAt.nanos + arming.period.nanos := by
  have le : arming.armedAt.nanos ≤ now.nanos := armedAt_le
  have next := arming.now_lt_next positive now
  have reached : arming.laps now * arming.period.nanos ≤ now.nanos - arming.armedAt.nanos :=
    Nat.div_mul_le_self _ _
  cases laps : arming.laps now with
  | zero =>
      rw [laps] at next
      omega
  | succ lap =>
      rw [laps] at next reached
      rw [Nat.add_one_mul] at next
      let tick : Duration := ⟨arming.armedAt.nanos + (lap + 1) * arming.period.nanos, by
        have := now.nanos_le
        omega⟩
      have played : tick ∈ arming.ticksBy now := mem_ticksBy.mpr ⟨lap, by omega, rfl⟩
      have within : arming.isWithin tick = true := by
        have none := List.find?_eq_none.mp going tick played
        simpa using none
      rw [isWithin, limited] at within
      have early : tick.nanos - arming.startedAt.nanos < budget.nanos := of_decide_eq_true within
      have shown : tick.nanos = arming.armedAt.nanos + (lap + 1) * arming.period.nanos := rfl
      omega

section

variable {canFetch : Bool} {origin : EventChannel} {line : Line Timers} {table : Timetable}

theorem Keeps.now_lt (keeps : Keeps canFetch origin line table) {arming : Arming}
    (inForce : table.inForce? = some arming) {budget : Duration}
    (limited : line.shared.config.maxDuration? = some budget) :
    line.clock.now.nanos <
      max (arming.startedAt.nanos + budget.nanos) arming.armedAt.nanos + arming.period.nanos := by
  have kept := keeps.kept arming inForce
  refine Arming.now_lt (keeps.positive inForce) kept.armedAt_le (kept.budget.symm.trans limited) ?_
  rw [keeps.now]
  exact (Timetable.inForce?_eq_some_iff.mp inForce).2

theorem Keeps.exists_inForce (keeps : Keeps canFetch origin line table)
    (running : line.shared.phase = .running) : ∃ arming, table.inForce? = some arming := by
  cases inForce : table.inForce? with
  | none => exact absurd (keeps.phase.symm.trans running) (Timetable.phase_ne_running inForce)
  | some arming => exact ⟨arming, rfl⟩

theorem Keeps.chronicle (keeps : Keeps canFetch origin line table) {armings : List Arming}
    (latest : Timetable.IsLatest armings table) (operation : Operation) :
    Option.Rel
      (fun state shown => Keeps canFetch origin state.1 shown.1 ∧ state.2 = shown.2 ∧
        Timetable.IsLatest shown.2 shown.1)
      (Engine.chronicle? (line, armings) operation)
      (Timetable.chronicle? (table, armings) operation) := by
  have both := keeps.perform operation
  simp only [Engine.chronicle?, Timetable.chronicle?, keeps.now, keeps.phase]
  generalize perform? line operation = reached at both
  generalize followed : table.next? operation = shown at both
  cases both with
  | none => exact .none
  | some keeps' => exact .some ⟨keeps', rfl, latest.next followed⟩

theorem Keeps.chronicleAll (keeps : Keeps canFetch origin line table)
    (unarmed : table.arming = none) (operations : List Operation) :
    Option.Rel
      (fun state shown => Keeps canFetch origin state.1 shown.1 ∧ state.2 = shown.2 ∧
        Timetable.IsLatest shown.2 shown.1)
      (Engine.chronicleAll? operations line) (Timetable.chronicleAll? operations table) := by
  apply rel_foldlM
  · rintro ⟨line, armings⟩ ⟨table, armings'⟩ operation ⟨keeps, rfl, latest⟩
    exact keeps.chronicle latest operation
  · refine ⟨keeps, rfl, fun arming inForce => ?_⟩
    cases unarmed.symm.trans (Timetable.inForce?_eq_some_iff.mp inForce).1

theorem Keeps.exists_latest (keeps : Keeps canFetch origin line table)
    (unarmed : table.arming = none) {operations : List Operation} {after : Line Timers}
    (performed : performAll? operations line = some after) :
    ∃ shown armings, Engine.chronicleAll? operations line = some (after, armings) ∧
      Keeps canFetch origin after shown ∧ Timetable.IsLatest armings shown := by
  rw [← Engine.map_fst_chronicle operations line []] at performed
  obtain ⟨⟨after, armings⟩, chronicled, rfl⟩ := Option.map_eq_some_iff.mp performed
  have both := keeps.chronicleAll unarmed operations
  generalize Timetable.chronicleAll? operations table = shown at both
  rw [Engine.chronicleAll?, chronicled] at both
  cases both with
  | some agree =>
      obtain ⟨keeps, rfl, latest⟩ := agree
      exact ⟨_, _, chronicled, keeps, latest⟩

/-- If the timer is left alone for long enough, the session expires. -/
theorem Keeps.expires (keeps : Keeps canFetch origin line table) {arming : Arming}
    (inForce : table.inForce? = some arming) {budget : Duration}
    (limited : line.shared.config.maxDuration? = some budget) {span : Duration}
    {after : Line Timers} (advanced : perform? line (.advance span) = some after)
    (late : max (arming.startedAt.nanos + budget.nanos) arming.armedAt.nanos +
      arming.period.nanos ≤ after.clock.now.nanos) : after.shared.phase = .expired := by
  have kept := keeps.kept arming inForce
  have last := (Timetable.inForce?_eq_some_iff.mp inForce).1
  obtain ⟨shown, moved, keeps'⟩ := keeps.exists_perform advanced
  obtain ⟨target, sum, moved⟩ := Option.bind_eq_some_iff.mp moved
  split at moved
  · cases moved
    cases going : arming.expiry? target with
    | some time => simp [keeps'.phase, Timetable.phase, last, going]
    | none =>
        have le : arming.armedAt.nanos ≤ target.nanos :=
          Nat.le_trans kept.armedAt_le (keeps.now ▸ Timers.le_of_add? sum)
        have lt := Arming.now_lt (keeps.positive inForce) le (kept.budget.symm.trans limited) going
        rw [keeps'.now] at late
        exact absurd lt (Nat.not_lt_of_le late)
  · cases moved

end

/-- While a session with a time budget is under way, the clock shows less than one interval beyond
the end of the budget or the latest arming of the timer, whichever is later.  So a session whose
timer is not armed again once its budget is used up lasts less than the budget and one interval, and
any session expires if the timer is left alone up to that bound. -/
theorem session_ends_within_an_interval {task : String} {config : PollConfig} {canFetch : Bool}
    {engine : Engine} (made : Engine.idle? task config canFetch = some engine)
    {operations : List Operation} {line : Line Timers}
    (reached : performAll? operations ⟨Timers.start, engine⟩ = some line)
    (running : line.shared.phase = .running) {budget : Duration}
    (limited : line.shared.config.maxDuration? = some budget) :
    ∃ started last earlier,
      line.shared.startedAt = some started ∧
        chronicleAll? operations ⟨Timers.start, engine⟩ = some (line, last :: earlier) ∧
        line.clock.now.nanos <
          max (started.nanos + budget.nanos) last.armedAt.nanos + last.period.nanos ∧
        (last.armedAt.nanos ≤ started.nanos + budget.nanos →
          line.clock.now.nanos - started.nanos < budget.nanos + last.period.nanos) ∧
        ∀ span after, perform? line (.advance span) = some after →
          max (started.nanos + budget.nanos) last.armedAt.nanos + last.period.nanos ≤
              after.clock.now.nanos →
            after.shared.phase = .expired := by
  obtain ⟨shown, armings, chronicled, keeps, latest⟩ := (keeps_blank made).exists_latest rfl reached
  obtain ⟨arming, inForce⟩ := keeps.exists_inForce running
  obtain ⟨earlier, rfl⟩ : ∃ earlier, armings = arming :: earlier :=
    List.head?_eq_some_iff.mp (latest arming inForce)
  have lt := keeps.now_lt inForce limited
  refine ⟨arming.startedAt, arming, earlier, (keeps.kept arming inForce).startedAt, chronicled, lt,
    fun early => ?_, fun span after advanced late => keeps.expires inForce limited advanced late⟩
  have positive := keeps.positive inForce
  rw [Nat.max_eq_left early] at lt
  omega

/-! ## Changes of the interval that keep a session going -/

/-- A session of half a second with ticks every half second, whose interval is set anew every four
tenths of a second. -/
def pestering : List Operation :=
  [.start { intervalMs := 500, maxDurationMs := 500 }, .advance (.ofMillis 400),
    .setInterval (.ofMillis 500), .advance (.ofMillis 400), .setInterval (.ofMillis 500),
    .advance (.ofMillis 400)]

theorem exists_pestered :
    ∃ engine line armings,
      Engine.idle? "watch" {} true = some engine ∧
        performAll? pestering ⟨Timers.start, engine⟩ = some line ∧
        chronicleAll? pestering ⟨Timers.start, engine⟩ = some (line, armings) ∧
        line.shared.phase = .running ∧ line.shared.startedAt = some .zero ∧
        line.shared.config.maxDuration? = some (.ofMillis 500) ∧
        line.clock.now = .ofMillis 1200 ∧
        armings.map (fun arming => (arming.armedAt, arming.period)) =
          [(.ofMillis 800, .ofMillis 500), (.ofMillis 400, .ofMillis 500),
            (.zero, .ofMillis 500)] := by
  obtain ⟨engine, made⟩ : ∃ engine, Engine.idle? "watch" {} true = some engine := ⟨_, rfl⟩
  have shown : (Timetable.chronicleAll? pestering Timetable.blank).map (fun state =>
      (state.1.clock, state.1.inForce?.map fun arming => (arming.startedAt, arming.budget),
        state.2.map fun arming => (arming.armedAt, arming.period))) =
      some (.ofMillis 1200, some (.zero, some (.ofMillis 500)),
        [(.ofMillis 800, .ofMillis 500), (.ofMillis 400, .ofMillis 500),
          (.zero, .ofMillis 500)]) := by
    decide +kernel
  have both := (keeps_blank made).chronicleAll rfl pestering
  generalize Timetable.chronicleAll? pestering Timetable.blank = noted at both shown
  generalize chronicled : Engine.chronicleAll? pestering _ = reached at both
  cases both with
  | none => cases shown
  | @some state table agree =>
      obtain ⟨line, armings⟩ := state
      obtain ⟨keeps, same, -⟩ := agree
      simp only [Option.map_some, Option.some.injEq, Prod.mk.injEq] at shown
      obtain ⟨clock, inForce, armed⟩ := shown
      obtain ⟨arming, inForce, session⟩ := Option.map_eq_some_iff.mp inForce
      obtain ⟨started, budget⟩ := Prod.mk.injEq .. ▸ session
      have kept := keeps.kept arming inForce
      have reached : performAll? pestering ⟨Timers.start, engine⟩ = some line := by
        rw [← Engine.map_fst_chronicle pestering _ []]
        exact congrArg (Option.map Prod.fst) chronicled
      exact ⟨engine, line, armings, made, reached, chronicled,
        keeps.phase.trans (Timetable.phase_of_inForce? inForce),
        kept.startedAt.trans (congrArg some started), kept.budget.trans budget,
        keeps.now.trans clock, (congrArg (List.map _) same).trans armed⟩

/-- Each change comes less than one interval after the one before, and the session is still within
one interval of the last. -/
theorem end_of_pestered_session :
    ∃ engine line last earlier,
      Engine.idle? "watch" {} true = some engine ∧
        performAll? pestering ⟨Timers.start, engine⟩ = some line ∧
        line.shared.phase = .running ∧
        line.shared.config.maxDuration? = some (.ofMillis 500) ∧
        chronicleAll? pestering ⟨Timers.start, engine⟩ = some (line, last :: earlier) ∧
        line.clock.now.nanos < max 500000000 last.armedAt.nanos + last.period.nanos := by
  obtain ⟨engine, line, armings, made, reached, -, running, startedAt, budget, -, -⟩ :=
    exists_pestered
  obtain ⟨started, last, earlier, startedAt', noted, lt, -⟩ :=
    session_ends_within_an_interval made reached running budget
  cases startedAt.symm.trans startedAt'
  exact ⟨engine, line, last, earlier, made, reached, running, budget, noted, lt⟩

/-- A session can outlast its budget by more than the longest interval that its timer was ever armed
with, if its interval is changed often enough. -/
theorem session_outlasts_budget_and_interval :
    ∃ engine line armings,
      Engine.idle? "watch" {} true = some engine ∧
        performAll? pestering ⟨Timers.start, engine⟩ = some line ∧
        chronicleAll? pestering ⟨Timers.start, engine⟩ = some (line, armings) ∧
        line.shared.phase = .running ∧ line.shared.startedAt = some .zero ∧
        line.shared.config.maxDuration? = some (.ofMillis 500) ∧
        ∀ arming ∈ armings,
          (Duration.ofMillis 500).nanos + arming.period.nanos <
            (line.clock.now.sub .zero).nanos := by
  obtain ⟨engine, line, armings, made, reached, chronicled, running, startedAt, budget, now,
    armed⟩ := exists_pestered
  refine ⟨engine, line, armings, made, reached, chronicled, running, startedAt, budget,
    fun arming found => ?_⟩
  have period : (arming.armedAt, arming.period) ∈
      armings.map fun arming => (arming.armedAt, arming.period) :=
    List.mem_map_of_mem found
  rw [armed] at period
  have half : arming.period = .ofMillis 500 := by
    simp only [List.mem_cons, Prod.mk.injEq, List.not_mem_nil, or_false] at period
    rcases period with ⟨-, half⟩ | ⟨-, half⟩ | ⟨-, half⟩ <;> exact half
  rw [half, now]
  decide

end ProbeWatch
