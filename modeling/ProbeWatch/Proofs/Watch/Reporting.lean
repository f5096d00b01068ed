import ProbeWatch.Watch.Report

/-!
# What a series of reports logs

A watcher reports again and again on results that grow, are replaced or are cleared in between.  A
lookup is logged by the first report on results that hold its number, and by no later one.  That
report looks at what earlier reports logged, not at what it is about to log itself: a number that
its results hold more than once is logged as often.
-/

namespace ProbeWatch

/-- The numbers of the lookups on display. -/
def Results.ids (results : Results) : List Int64 := results.records.map (·.id)

namespace Reporter

/-! ## Reports one after the other -/

/-- What is said in reports on results one after the other. -/
def said (reporter : Reporter) : List Results → List LogLine
  | [] => []
  | results :: rest => (reporter.report results).1 ++ said (reporter.report results).2 rest

/-- What was reported after reports on results one after the other. -/
def after (reporter : Reporter) (history : List Results) : Reporter :=
  history.foldl (fun reporter results => (reporter.report results).2) reporter

/-- The lookups that are logged in these reports, each with the total that is told beside it. -/
def logged (reporter : Reporter) : List Results → List (UInt64 × DnsRecord)
  | [] => []
  | results :: rest =>
      (reporter.fresh results).map (results.recordsTotal, ·) ++
        logged (reporter.report results).2 rest

/-- How often a number is logged in these reports. -/
def timesLogged (reporter : Reporter) (history : List Results) (id : Int64) : Nat :=
  (reporter.logged history).countP fun entry => entry.2.id = id

/-! ## One report -/

theorem filter_errorLines (reporter : Reporter) (results : Results) :
    (reporter.errorLines results).filter (fun line => line.level = .info) = [] := by
  rw [errorLines]
  split <;> rfl

theorem filter_report (reporter : Reporter) (results : Results) :
    (reporter.report results).1.filter (fun line => line.level = .info) =
      (reporter.fresh results).map (recordLine results.recordsTotal) := by
  rw [report, List.filter_append, filter_errorLines, List.append_nil, List.filter_eq_self]
  intro line found
  obtain ⟨record, -, rfl⟩ := List.mem_map.mp found
  rfl

theorem mem_seen_report {reporter : Reporter} {results : Results} {id : Int64} :
    id ∈ (reporter.report results).2.seen ↔ id ∈ reporter.seen ∨ id ∈ results.ids := by
  simp only [report, fresh, Results.ids, List.mem_append, List.mem_map, List.mem_filter]
  constructor
  · rintro (before | ⟨record, ⟨found, -⟩, rfl⟩)
    · exact .inl before
    · exact .inr ⟨record, found, rfl⟩
  · rintro (before | ⟨record, found, rfl⟩)
    · exact .inl before
    · by_cases before : record.id ∈ reporter.seen
      · exact .inl before
      · exact .inr ⟨record, ⟨found, by simpa using before⟩, rfl⟩

/-- The lookups of one number in a report: all that its results hold, or none if the number was
reported before. -/
theorem filter_fresh (reporter : Reporter) (results : Results) (id : Int64) :
    (reporter.fresh results).filter (fun record => record.id = id) =
      if id ∈ reporter.seen then [] else results.records.filter fun record => record.id = id := by
  rw [fresh, List.filter_filter]
  split
  · rename_i before
    rw [List.filter_eq_nil_iff]
    intro record _ both
    simp only [Bool.and_eq_true, decide_eq_true_eq] at both
    obtain ⟨rfl, unseen⟩ := both
    simp [before] at unseen
  · rename_i unseen
    refine List.filter_congr fun record _ => ?_
    by_cases same : record.id = id
    · simp [same, unseen]
    · simp [same]

/-! ## Series of reports -/

theorem filter_said (reporter : Reporter) (history : List Results) :
    (reporter.said history).filter (fun line => line.level = .info) =
      (reporter.logged history).map fun entry => recordLine entry.1 entry.2 := by
  induction history generalizing reporter with
  | nil => rfl
  | cons results rest ih =>
      rw [said, logged, List.filter_append, filter_report, ih, List.map_append, List.map_map]
      rfl

theorem mem_seen_after (reporter : Reporter) (history : List Results) (id : Int64) :
    id ∈ (reporter.after history).seen ↔
      id ∈ reporter.seen ∨ ∃ results ∈ history, id ∈ results.ids := by
  induction history generalizing reporter with
  | nil => simp [after]
  | cons results rest ih =>
      have split := ih (reporter.report results).2
      rw [mem_seen_report, or_assoc] at split
      simpa [after] using split

/-- The lookups of one number that are logged are those of the first results that hold it, unless
the number was reported before. -/
theorem filter_logged (reporter : Reporter) (history : List Results) (id : Int64) :
    (reporter.logged history).filter (fun entry => entry.2.id = id) =
      if id ∈ reporter.seen then []
      else
        (history.find? fun results => id ∈ results.ids).elim [] fun first =>
          (first.records.filter fun record => record.id = id).map (first.recordsTotal, ·) := by
  induction history generalizing reporter with
  | nil => simp [logged]
  | cons results rest ih =>
      rw [logged, List.filter_append, List.filter_map, ih]
      simp only [mem_seen_report]
      have now := filter_fresh reporter results id
      by_cases before : id ∈ reporter.seen
      · rw [if_pos before] at now
        simpa [before, Function.comp_def] using now
      · rw [if_neg before] at now
        by_cases holds : id ∈ results.ids
        · simp [before, holds, Function.comp_def, now]
        · have absent : results.records.filter (fun record => record.id = id) = [] := by
            rw [List.filter_eq_nil_iff]
            intro record found same
            exact holds (List.mem_map.mpr ⟨record, found, by simpa using same⟩)
          rw [absent] at now
          simp [before, holds, Function.comp_def, now]

theorem timesLogged_eq (reporter : Reporter) (history : List Results) (id : Int64) :
    reporter.timesLogged history id =
      if id ∈ reporter.seen then 0
      else (history.find? fun results => id ∈ results.ids).elim 0 (·.ids.count id) := by
  rw [timesLogged, List.countP_eq_length_filter, filter_logged]
  split
  · rfl
  · cases history.find? fun results => id ∈ results.ids with
    | none => rfl
    | some first =>
        rw [Option.elim_some, Option.elim_some, List.length_map, ← List.countP_eq_length_filter,
          Results.ids, List.count, List.countP_map]
        rfl

/-- Whatever results a new reporter is given, in whatever order, every number that they hold is
logged, by the first report on results that hold it and by no other, as often as these results hold
it; so it is logged exactly once exactly if they hold it once.  No other number is logged, and in
the end the reporter has seen the numbers that the results held. -/
theorem numbers_are_logged_at_first_sight (lastError : String) (history : List Results) :
    let reporter : Reporter := { lastError }
    (reporter.said history).filter (fun line => line.level = .info) =
        (reporter.logged history).map (fun entry => recordLine entry.1 entry.2) ∧
      (∀ id, (reporter.logged history).filter (fun entry => entry.2.id = id) =
        (history.find? fun results => id ∈ results.ids).elim [] fun first =>
          (first.records.filter fun record => record.id = id).map (first.recordsTotal, ·)) ∧
      (∀ id, 0 < reporter.timesLogged history id ↔ ∃ results ∈ history, id ∈ results.ids) ∧
      (∀ id, reporter.timesLogged history id = 1 ↔
        ∃ first, history.find? (fun results => id ∈ results.ids) = some first ∧
          first.ids.count id = 1) ∧
      ∀ id, id ∈ (reporter.after history).seen ↔ ∃ results ∈ history, id ∈ results.ids := by
  intro reporter
  have times : ∀ id, reporter.timesLogged history id =
      (history.find? fun results => id ∈ results.ids).elim 0 (·.ids.count id) := by
    intro id
    simpa [reporter] using timesLogged_eq reporter history id
  refine ⟨filter_said reporter history, fun id => ?first, fun id => ?often, fun id => ?once,
    fun id => ?seen⟩
  case first => simpa [reporter] using filter_logged reporter history id
  case often =>
    rw [times]
    cases found : history.find? fun results => id ∈ results.ids with
    | none => simpa using found
    | some first =>
        have holds : id ∈ first.ids := by simpa using List.find?_some found
        exact ⟨fun _ => ⟨first, List.mem_of_find?_eq_some found, holds⟩,
          fun _ => List.count_pos_iff.mpr holds⟩
  case once =>
    rw [times]
    cases history.find? fun results => id ∈ results.ids <;> simp
  case seen => simpa [reporter] using mem_seen_after reporter history id

/-- Two lookups of one number. -/
def repeated : Results := { records := [{ id := 1 }, { id := 1 }], recordsTotal := 2 }

/-- A number that occurs twice in one list is logged twice, although a report is meant to log each
lookup once. -/
theorem repeated_number_is_logged_twice :
    (1 : Int64) ∈ repeated.ids ∧ ({} : Reporter).timesLogged [repeated] 1 = 2 ∧
      ¬ ∀ (history : List Results) (id : Int64), (∃ results ∈ history, id ∈ results.ids) →
        ({} : Reporter).timesLogged history id = 1 := by
  have holds : (1 : Int64) ∈ repeated.ids := by decide
  have twice : ({} : Reporter).timesLogged [repeated] 1 = 2 := by decide
  refine ⟨holds, twice, fun once => ?_⟩
  have single := once [repeated] 1 ⟨repeated, List.mem_singleton.mpr rfl, holds⟩
  omega

end Reporter
end ProbeWatch
