import ProbeWatch.Timer.Basic

/-!
# Advancing a clock

An advance fires every tick that falls due, in order of time and then of scheduling, and each tick
sees the clock at its own due time.  What a tick does is a reaction: it may move the clock on and
change the timers, as long as it puts no timer at the present instant or before it.
-/

namespace ProbeWatch

/-- A clock together with what its ticks act upon. -/
structure Timeline (S σ : Type) where
  clock : S
  shared : σ

namespace Timers

variable {α σ : Type}

/-- Time went on, and no timer was put at the instant before or earlier. -/
def Settles (before after : Timers α) : Prop :=
  before.now ≤ after.now ∧ ∀ instant ≤ before.now, after.dueBy instant ≤ before.dueBy instant

theorem Settles.refl (timers : Timers α) : Settles timers timers :=
  ⟨Nat.le_refl _, fun _ _ => Nat.le_refl _⟩

theorem Settles.trans {first second third : Timers α} (h : Settles first second)
    (h' : Settles second third) : Settles first third :=
  ⟨Nat.le_trans h.1 h'.1, fun instant le =>
    Nat.le_trans (h'.2 instant (Nat.le_trans le h.1)) (h.2 instant le)⟩

theorem settles_cancel (timers : Timers α) (id : Nat) : Settles timers (timers.cancel id) := by
  refine ⟨Nat.le_refl _, fun instant _ => ?_⟩
  exact List.filter_sublist.countP_le

theorem lt_due_of_schedule? {timers after : Timers α} {period : Duration} {action : α} {id : Nat}
    (h : timers.schedule? period action = some (id, after)) :
    ∃ due, timers.now < due ∧
      after.live = timers.live ++ [⟨timers.nextId, Duration.max period minPeriod, due, action⟩] ∧
      after.now = timers.now := by
  unfold schedule? at h
  dsimp only at h
  split at h
  · cases h
  · rename_i due sum
    simp only [Option.some.injEq, Prod.mk.injEq] at h
    obtain ⟨_, rfl⟩ := h
    refine ⟨due, ?_, rfl, rfl⟩
    have total := nanos_of_add? sum
    have positive : minPeriod.nanos ≤ (Duration.max period minPeriod).nanos := minPeriod_le_max period
    have one : 0 < minPeriod.nanos := by decide
    show timers.now.nanos < due.nanos
    omega

theorem settles_schedule? {timers after : Timers α} {period : Duration} {action : α} {id : Nat}
    (h : timers.schedule? period action = some (id, after)) : Settles timers after := by
  obtain ⟨due, later, live, now⟩ := lt_due_of_schedule? h
  refine ⟨by rw [now]; exact Nat.le_refl _, fun instant le => ?_⟩
  have : ¬ due ≤ instant := Nat.not_le_of_lt (Nat.lt_of_le_of_lt le later)
  simp [dueBy, live, List.countP_append, this]

/-- What a tick does.  There is no result when the clock cannot show a time that the tick asks
for. -/
structure Reaction (α σ : Type) where
  /-- The effect of the tick of an action. -/
  run : α → Timeline (Timers α) σ → Option (Timeline (Timers α) σ)
  /-- The effect settles. -/
  settles : ∀ action before after,
    run action before = some after → Settles before.clock after.clock

theorem countP_postpone_le (live : List (Timer α)) (id : Nat) (due instant : Duration)
    (later : ∀ timer ∈ live, timer.id = id → timer.due ≤ due) :
    (live.map (postpone id due)).countP (fun timer => decide (timer.due ≤ instant)) ≤
      live.countP (fun timer => decide (timer.due ≤ instant)) := by
  rw [List.countP_map]
  apply List.countP_mono_left
  intro timer found
  simp only [Function.comp, decide_eq_true_eq]
  unfold postpone
  split
  · rename_i same
    intro le
    exact Nat.le_trans (later timer found same) le
  · exact fun le => le

theorem eq_of_id_eq {live : List (Timer α)}
    (increasing : live.Pairwise (fun earlier later => earlier.id < later.id))
    {a b : Timer α} (ha : a ∈ live) (hb : b ∈ live) (same : a.id = b.id) : a = b := by
  induction live with
  | nil => simp at ha
  | cons timer rest ih =>
      rw [List.pairwise_cons] at increasing
      rcases List.mem_cons.mp ha with headA | restA <;>
        rcases List.mem_cons.mp hb with headB | restB
      · rw [headA, headB]
      · exact absurd same (headA ▸ Nat.ne_of_lt (increasing.1 b restB))
      · exact absurd same.symm (headB ▸ Nat.ne_of_lt (increasing.1 a restA))
      · exact ih increasing.2 restA restB

theorem dueBy_fire_le (timers : Timers α) (timer : Timer α)
    (first : earliest? timers.live = some timer) (due : Duration) (later : timer.due ≤ due)
    (instant : Duration) : (timers.fire timer first due later).dueBy instant ≤ timers.dueBy instant := by
  apply countP_postpone_le
  intro other found same
  rw [eq_of_id_eq timers.ids_increasing found (earliest?_mem first) same]
  exact later

theorem countP_lt_of_mem {live : List (Timer α)} {p q : Timer α → Bool}
    (mono : ∀ timer ∈ live, q timer = true → p timer = true) {timer : Timer α} (found : timer ∈ live)
    (holds : p timer = true) (fails : q timer = false) : live.countP q < live.countP p := by
  induction live with
  | nil => simp at found
  | cons head rest ih =>
      have tail : rest.countP q ≤ rest.countP p :=
        List.countP_mono_left fun other member => mono other (List.mem_cons_of_mem _ member)
      rcases List.mem_cons.mp found with rfl | member
      · simp only [List.countP_cons, holds, fails]
        simp
        omega
      · have := ih (fun other member => mono other (List.mem_cons_of_mem _ member)) member
        simp only [List.countP_cons]
        by_cases inLesser : q head = true
        · rw [if_pos inLesser, if_pos (mono head (by simp) inLesser)]
          omega
        · rw [if_neg inLesser]
          omega

theorem dueBy_fire_lt (timers : Timers α) (timer : Timer α)
    (first : earliest? timers.live = some timer) (due : Duration) (later : timer.due < due) :
    (timers.fire timer first due (Nat.le_of_lt later)).dueBy timer.due < timers.dueBy timer.due := by
  unfold dueBy
  show (timers.live.map (postpone timer.id due)).countP _ < _
  rw [List.countP_map]
  refine countP_lt_of_mem ?_ (earliest?_mem first)
    (decide_eq_true (Nat.le_refl timer.due.nanos)) ?_
  · intro other found
    simp only [Function.comp, decide_eq_true_eq]
    unfold postpone
    split
    · intro le
      exact absurd le (Nat.not_le_of_lt later)
    · exact fun le => le
  · simp only [Function.comp, postpone, if_true, decide_eq_false_iff_not]
    exact Nat.not_le_of_lt later

theorem lt_of_add?_period {timers : Timers α} {timer : Timer α}
    (found : timer ∈ timers.live) {due : Duration} (h : timer.due.add? timer.period = some due) :
    timer.due < due := by
  have total := nanos_of_add? h
  have period : minPeriod.nanos ≤ timer.period.nanos := timers.minPeriod_le timer found
  have one : 0 < minPeriod.nanos := by decide
  show timer.due.nanos < due.nanos
  omega

/-- How far the next tick is from the target, and how many ticks share its instant. -/
def remaining (timers : Timers α) (target : Duration) : Nat × Nat :=
  match timers.next? target with
  | none => (0, 0)
  | some timer => (target.nanos - timer.due.nanos + 1, timers.dueBy timer.due)

/-- Firing the next tick and settling brings the target nearer. -/
theorem remaining_lt {timers after : Timers α} {target : Duration} {timer : Timer α}
    (next : timers.next? target = some timer) {due : Duration} (later : timer.due < due)
    (settled : Settles
      (timers.fire timer (earliest?_of_next? next).1 due (Nat.le_of_lt later)) after) :
    Prod.Lex (· < ·) (· < ·) (after.remaining target) (timers.remaining target) := by
  obtain ⟨first, inTime⟩ := earliest?_of_next? next
  have before : timers.remaining target =
      (target.nanos - timer.due.nanos + 1, timers.dueBy timer.due) := by
    simp [remaining, next]
  rw [before]
  have inTime' : timer.due.nanos ≤ target.nanos := inTime
  cases following : after.next? target with
  | none =>
      have : after.remaining target = (0, 0) := by simp [remaining, following]
      rw [this]
      exact Prod.Lex.left _ _ (by omega)
  | some other =>
      obtain ⟨otherFirst, otherInTime⟩ := earliest?_of_next? following
      have otherInTime' : other.due.nanos ≤ target.nanos := otherInTime
      have this : after.remaining target =
          (target.nanos - other.due.nanos + 1, after.dueBy other.due) := by
        simp [remaining, following]
      rw [this]
      have forward : timer.due.nanos ≤ other.due.nanos :=
        Nat.le_trans settled.1 (after.now_le_due other (earliest?_mem otherFirst))
      by_cases same : other.due = timer.due
      · rw [same]
        refine Prod.Lex.right _ ?_
        exact Nat.lt_of_le_of_lt (settled.2 timer.due (Nat.le_refl _))
          (dueBy_fire_lt timers timer first due later)
      · refine Prod.Lex.left _ _ ?_
        have : timer.due.nanos ≠ other.due.nanos := fun eq => same (Duration.ext eq.symm)
        omega

/-- Fires every tick up to `target` and then shows `target`. -/
def advanceTo (reaction : Reaction α σ) (target : Duration) (line : Timeline (Timers α) σ) :
    Option (Timeline (Timers α) σ) :=
  match next : line.clock.next? target with
  | none => some { line with clock := line.clock.rest target next }
  | some timer =>
      match sum : timer.due.add? timer.period with
      | none => none
      | some due =>
          let later := lt_of_add?_period (earliest?_mem (earliest?_of_next? next).1) sum
          let fired := line.clock.fire timer (earliest?_of_next? next).1 due (Nat.le_of_lt later)
          match _ : reaction.run timer.action { line with clock := fired } with
          | none => none
          | some after => advanceTo reaction target after
termination_by line.clock.remaining target
decreasing_by exact remaining_lt next later (reaction.settles _ _ _ ‹_›)

/-- Moves the clock on by a duration and fires every tick that falls due. -/
def advance (reaction : Reaction α σ) (step : Duration) (line : Timeline (Timers α) σ) :
    Option (Timeline (Timers α) σ) :=
  (line.clock.now.add? step).bind fun target => advanceTo reaction target line

theorem settles_fire (timers : Timers α) (timer : Timer α)
    (first : earliest? timers.live = some timer) (due : Duration) (later : timer.due ≤ due) :
    Settles timers (timers.fire timer first due later) :=
  ⟨timers.now_le_due timer (earliest?_mem first), fun instant _ =>
    dueBy_fire_le timers timer first due later instant⟩

/-- An advance ends at its target, and puts no timer at its start or before. -/
theorem now_and_dueBy_advanceTo {reaction : Reaction α σ} {target : Duration}
    {line after : Timeline (Timers α) σ} (h : advanceTo reaction target line = some after) :
    after.clock.now = target ∧
      ∀ instant ≤ line.clock.now, after.clock.dueBy instant ≤ line.clock.dueBy instant := by
  fun_induction advanceTo reaction target line with
  | case1 line quiet =>
      cases h
      exact ⟨rfl, fun _ _ => Nat.le_refl _⟩
  | case2 => cases h
  | case3 => cases h
  | case4 line timer next due sum later fired middle effect ih =>
      obtain ⟨now, counts⟩ := ih h
      have settled := (settles_fire line.clock timer (earliest?_of_next? next).1 due
        (Nat.le_of_lt later)).trans (reaction.settles _ _ _ effect)
      exact ⟨now, fun instant le =>
        Nat.le_trans (counts instant (Nat.le_trans le settled.1)) (settled.2 instant le)⟩

/-- An advance settles, so it may itself be part of a reaction. -/
theorem settles_advance {reaction : Reaction α σ} {step : Duration}
    {line after : Timeline (Timers α) σ} (h : advance reaction step line = some after) :
    Settles line.clock after.clock := by
  unfold advance at h
  rw [Option.bind_eq_some_iff] at h
  obtain ⟨target, sum, h⟩ := h
  obtain ⟨now, counts⟩ := now_and_dueBy_advanceTo h
  exact ⟨by rw [now]; exact le_of_add? sum, counts⟩

end Timers
end ProbeWatch
