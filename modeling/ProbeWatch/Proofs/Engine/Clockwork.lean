import ProbeWatch.Proofs.Engine.Operation

/-!
# Engines on related clocks

An engine asks three things of its clock: the time, a new timer, and the end of one.  On two clocks
that answer alike it does the same, and leaves them answering alike.
-/

namespace ProbeWatch.Engine

variable {S S' : Type → Type} [Scheduler S] [Scheduler S']

/-- A relation between the states of two clocks that keeps their answers alike.  The first clock
grants whatever timer the second one grants. -/
structure Alike (related : S Nat → S' Nat → Prop) : Prop where
  now : ∀ {clock clock'}, related clock clock' → Scheduler.now clock = Scheduler.now clock'
  schedule? : ∀ {clock clock'}, related clock clock' →
    ∀ {period : Duration} {generation id : Nat} {after' : S' Nat},
      Scheduler.schedule? clock' period generation = some (id, after') →
        ∃ after, Scheduler.schedule? clock period generation = some (id, after) ∧
          related after after'
  cancel : ∀ {clock clock'}, related clock clock' →
    ∀ id, related (Scheduler.cancel clock id) (Scheduler.cancel clock' id)

/-- The same engine on related clocks. -/
structure Beside (related : S Nat → S' Nat → Prop) (line : Line S) (line' : Line S') : Prop where
  shared : line.shared = line'.shared
  clock : related line.clock line'.clock

namespace Beside

variable {related : S Nat → S' Nat → Prop} {line : Line S} {line' : Line S'}

theorem drop (alike : Alike related) (beside : Beside related line line') (timer : Option Nat) :
    Beside related (line.drop timer) (line'.drop timer) := by
  cases timer with
  | none => exact beside
  | some id => exact ⟨beside.shared, alike.cancel beside.clock id⟩

theorem step_setInterval (beside : Beside related line line') {interval : Duration} {next : Call}
    {after' : Line S'} (taken : Engine.step line' (.setInterval interval) = some (next, after')) :
    ∃ after, Engine.step line (.setInterval interval) = some (next, after) ∧
      Beside related after after' := by
  obtain ⟨clock, engine⟩ := line
  obtain ⟨clock', engine'⟩ := line'
  obtain ⟨rfl, matching⟩ := beside
  simp only [Engine.step] at taken ⊢
  by_cases short : interval < PollConfig.minInterval
  · rw [if_pos short] at taken ⊢
    cases taken
    exact ⟨_, rfl, rfl, matching⟩
  · rw [if_neg short] at taken ⊢
    by_cases running : engine.phase = .running
    · rw [if_pos running] at taken ⊢
      cases taken
      exact ⟨_, rfl, rfl, matching⟩
    · rw [if_neg running] at taken ⊢
      cases taken
      exact ⟨_, rfl, rfl, matching⟩

theorem step_check (beside : Beside related line line') {generation : Nat} {now : Duration}
    {next : Call} {after' : Line S'}
    (taken : Engine.step line' (.check generation now) = some (next, after')) :
    ∃ after, Engine.step line (.check generation now) = some (next, after) ∧
      Beside related after after' := by
  obtain ⟨clock, engine⟩ := line
  obtain ⟨clock', engine'⟩ := line'
  obtain ⟨rfl, matching⟩ := beside
  rw [Engine.step_check] at taken ⊢
  by_cases current : engine.generation = generation ∧ engine.phase = .running
  · simp only [if_pos current] at taken ⊢
    cases spent : engine.isSpentAt now with
    | true =>
        simp only [spent, if_true] at taken ⊢
        cases taken
        exact ⟨_, rfl, rfl, matching⟩
    | false =>
        simp only [spent, Bool.false_eq_true, if_false] at taken ⊢
        cases taken
        exact ⟨_, rfl, rfl, matching⟩
  · simp only [if_neg current] at taken ⊢
    cases taken
    exact ⟨_, rfl, rfl, matching⟩

theorem step (alike : Alike related) (beside : Beside related line line') {call next : Call}
    {after' : Line S'} (taken : Engine.step line' call = some (next, after')) :
    ∃ after, Engine.step line call = some (next, after) ∧ Beside related after after' := by
  obtain ⟨clock, engine⟩ := line
  obtain ⟨clock', engine'⟩ := line'
  obtain ⟨rfl, matching⟩ := beside
  have still : Beside related (⟨clock, engine⟩ : Line S) (⟨clock', engine⟩ : Line S') :=
    ⟨rfl, matching⟩
  have now := alike.now matching
  dsimp only at matching now
  cases call with
  | start config | tick generation =>
      simp only [Engine.step, now] at taken ⊢
      cases taken
      exact ⟨_, rfl, rfl, matching⟩
  | takeOver | announceStart | firstFetch | announceStop | announceInterval | announceExpired
  | fetch | done =>
      cases taken
      exact ⟨_, rfl, rfl, matching⟩
  | discard | dropStopped | dropReplaced | dropExpired =>
      cases taken
      exact ⟨_, rfl, drop alike still _⟩
  | dropFormer config now generation former =>
      cases taken
      refine ⟨_, rfl, drop alike ?_ former⟩
      split <;> exact ⟨rfl, matching⟩
  | install generation timer interval changed =>
      simp only [Engine.step] at taken ⊢
      by_cases current : engine.generation = generation
      · rw [if_pos current] at taken ⊢
        cases taken
        exact ⟨_, rfl, drop alike ⟨rfl, matching⟩ _⟩
      · rw [if_neg current] at taken ⊢
        cases taken
        exact ⟨_, rfl, rfl, matching⟩
  | arm generation interval changed =>
      simp only [Engine.step] at taken ⊢
      split at taken
      · cases taken
      · rename_i timer scheduled granted
        cases taken
        obtain ⟨after, granted', related'⟩ := alike.schedule? matching granted
        rw [granted']
        exact ⟨_, rfl, rfl, related'⟩
  | stop =>
      cases taken
      exact ⟨_, rfl, rfl, matching⟩
  | setInterval interval => exact still.step_setInterval taken
  | check generation now => exact still.step_check taken

theorem run (alike : Alike related) {call : Call} {accepted : Bool} {after' : Line S'}
    (beside : Beside related line line') (ran : Engine.run call line' = some (accepted, after')) :
    ∃ after, Engine.run call line = some (accepted, after) ∧ Beside related after after' := by
  fun_induction Engine.run call line' generalizing line with
  | case1 call line' ended =>
      cases ran
      exact ⟨line, by rw [Engine.run, dif_pos ended], beside⟩
  | case2 => cases ran
  | case3 call line' unfinished next middle' taken ih =>
      obtain ⟨middle, taken', beside'⟩ := beside.step alike taken
      obtain ⟨after, ran', beside''⟩ := ih beside' ran
      exact ⟨after, (run_of_step unfinished taken').trans ran', beside''⟩

end Beside

/-! ## Operations -/

/-- Carries out an operation on a clock that is moved on in a way of its own. -/
def performBy (advance : Duration → Line S → Option (Line S)) (line : Line S) :
    Operation → Option (Line S)
  | .start config => (start? config line).map Prod.snd
  | .stop => stop? line
  | .setInterval interval => (setInterval? interval line).map Prod.snd
  | .advance span => advance span line

theorem performBy_advance (line : Line Timers) (operation : Operation) :
    performBy Engine.advance line operation = perform? line operation := by
  cases operation <;> rfl

/-- Carries out an operation during which the clock stands still. -/
def call? (line : Line S) (operation : Operation) : Option (Line S) :=
  performBy (fun _ _ => none) line operation

/-- An operation moves the clock on, or the clock stands still. -/
theorem perform?_cases (told : Line Timers) (operation : Operation) :
    (∃ span, operation = .advance span) ∨ perform? told operation = call? told operation := by
  cases operation with
  | advance span => exact .inl ⟨span, rfl⟩
  | start config | stop | setInterval interval => exact .inr rfl

theorem perform?_of_call? {line after : Line S} {operation : Operation}
    (called : call? line operation = some after) (told : Line Timers) :
    perform? told operation = call? told operation := by
  rcases perform?_cases told operation with ⟨span, rfl⟩ | same
  · cases called
  · exact same

namespace Beside

variable {related : S Nat → S' Nat → Prop} {line : Line S} {line' : Line S'}

theorem map_run (alike : Alike related) (beside : Beside related line line') {call : Call}
    {after' : Line S'} (ran : (Engine.run call line').map Prod.snd = some after') :
    ∃ after, (Engine.run call line).map Prod.snd = some after ∧ Beside related after after' := by
  obtain ⟨⟨accepted, _⟩, ended', rfl⟩ := Option.map_eq_some_iff.mp ran
  obtain ⟨after, ended, beside'⟩ := beside.run alike ended'
  exact ⟨after, by rw [ended]; rfl, beside'⟩

theorem tick? (alike : Alike related) (beside : Beside related line line') {generation : Nat}
    {after' : Line S'} (ticked : Engine.tick? generation line' = some after') :
    ∃ after, Engine.tick? generation line = some after ∧ Beside related after after' :=
  beside.map_run alike ticked

theorem performBy (alike : Alike related) (beside : Beside related line line')
    {advance : Duration → Line S → Option (Line S)}
    {advance' : Duration → Line S' → Option (Line S')} {operation : Operation}
    (moves : ∀ span, operation = .advance span → ∀ {after' : Line S'},
      advance' span line' = some after' →
        ∃ after, advance span line = some after ∧ Beside related after after')
    {after' : Line S'}
    (performed : Engine.performBy advance' line' operation = some after') :
    ∃ after, Engine.performBy advance line operation = some after ∧
      Beside related after after' := by
  cases operation with
  | start config =>
      simp only [Engine.performBy, start?] at performed ⊢
      by_cases zero : config.intervalMs = 0
      · rw [if_pos zero] at performed ⊢
        cases performed
        exact ⟨line, rfl, beside⟩
      · rw [if_neg zero, Option.map_map] at performed ⊢
        exact beside.map_run alike performed
  | stop => exact beside.map_run alike performed
  | setInterval interval => exact beside.map_run alike performed
  | advance span => exact moves span rfl performed

/-- An operation during which the clocks stand still comes to the same on both. -/
theorem call? (alike : Alike related) (beside : Beside related line line') {operation : Operation}
    {after' : Line S'} (called : Engine.call? line' operation = some after') :
    ∃ after, Engine.call? line operation = some after ∧ Beside related after after' :=
  beside.performBy alike (fun _ _ _ moved => by cases moved) called

end Beside

/-! ## What calls keep -/

/-- Whether new timers and the end of timers keep a property of a clock. -/
structure IsKept (P : S Nat → Prop) : Prop where
  schedule? : ∀ {clock after : S Nat} {period : Duration} {generation id : Nat}, P clock →
    Scheduler.schedule? clock period generation = some (id, after) → P after
  cancel : ∀ {clock : S Nat}, P clock → ∀ id, P (Scheduler.cancel clock id)

namespace IsKept

variable {P : S Nat → Prop} {line after : Line S}

theorem alike (kept : IsKept P) : Alike fun clock clock' : S Nat => clock = clock' ∧ P clock where
  now same := by rw [same.1]
  schedule? := by
    rintro clock clock' ⟨rfl, holds⟩ period generation id after granted
    exact ⟨after, granted, rfl, kept.schedule? holds granted⟩
  cancel := by
    rintro clock clock' ⟨rfl, holds⟩ id
    exact ⟨rfl, kept.cancel holds id⟩

theorem tick? (kept : IsKept P) (holds : P line.clock) {generation : Nat}
    (ticked : Engine.tick? generation line = some after) : P after.clock := by
  obtain ⟨_, ticked', beside⟩ := Beside.tick? kept.alike ⟨rfl, rfl, holds⟩ ticked
  rw [ticked] at ticked'
  cases ticked'
  exact beside.clock.2

theorem call? (kept : IsKept P) (holds : P line.clock) {operation : Operation}
    (called : Engine.call? line operation = some after) : P after.clock := by
  obtain ⟨_, called', beside⟩ := Beside.call? kept.alike ⟨rfl, rfl, holds⟩ called
  rw [called] at called'
  cases called'
  exact beside.clock.2

end IsKept
end ProbeWatch.Engine
