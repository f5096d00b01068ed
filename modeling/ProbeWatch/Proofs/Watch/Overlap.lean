import Mathlib.Data.List.Basic
import ProbeWatch.Watch.Poll

/-!
# Overlapping polls

Any number of polls of tokens on one session, interleaved at the points where they wait, with the
user and other calls to the backend changing the session in between.  The results on display are
those of the finished polls alone, one after the other in the order in which they ended.
-/

namespace ProbeWatch

/-! ## Polls on one session -/

/-- A session and the polls that were begun on it. -/
structure Desk where
  session : Session
  /-- The settings of each poll and what is left of it, in the order in which they began. -/
  polls : List (WatchConfig × Poll)

/-- What happens to a session next. -/
inductive DeskEvent : Type 1
  /-- A poll begins. -/
  | begin (config : WatchConfig)
  /-- The reply arrives that a poll waits for. -/
  | deliver (index : Nat) (reply : Reply)
  /-- The user enters a domain. -/
  | setDomain (domain : String)
  /-- The reply to another call arrives. -/
  | answer {α : Type} (endpoint : Endpoint α) (reply : Reply)
  /-- The reply to a question for the backend's setup arrives. -/
  | answerConfig (reply : Reply)

namespace Desk

/-- The desk after an event. -/
def next (desk : Desk) : DeskEvent → Desk
  | .begin config =>
      let (poll, session) := Poll.start .token desk.session
      ⟨session, desk.polls ++ [(config, poll)]⟩
  | .deliver index reply =>
      match desk.polls[index]? with
      | none => desk
      | some (config, poll) =>
          let (poll, session) := poll.receive config reply desk.session
          ⟨session, desk.polls.set index (config, poll)⟩
  | .setDomain domain => { desk with session := desk.session.setDomain domain }
  | .answer endpoint reply =>
      { desk with session := (Gateway.complete endpoint reply desk.session).2 }
  | .answerConfig reply =>
      let (result, session) := Gateway.complete Api.runtimeConfig reply desk.session
      { desk with session := Api.adoptRuntimeConfig result session }

/-- The desk after events one after the other. -/
def run (events : List DeskEvent) (desk : Desk) : Desk := events.foldl next desk

end Desk

/-! ## What a finished poll amounts to -/

/-- What a poll comes to. -/
inductive Outcome
  /-- The domain does not start with a token. -/
  | rejected
  /-- One of the requests failed. -/
  | failed (policy : FailurePolicy) (message : String)
  /-- Both requests were answered. -/
  | accepted (mode : ReconcileMode) (status : TokenStatus) (page : Page DnsRecord)

namespace Outcome

/-- What the answers to both requests come to; the failure of the first one counts before that of
the second. -/
def ofAnswers (config : WatchConfig) (status : Except ApiError TokenStatus)
    (page : Except ApiError (Page DnsRecord)) : Outcome :=
  match status, page with
  | .ok status, .ok page => .accepted config.mode status page
  | .error error, _ => .failed config.onFailure error.message
  | .ok _, .error error => .failed config.onFailure error.message

/-- The results after an outcome. -/
def apply (results : Results) : Outcome → Results
  | .rejected =>
      { dnsResults := results.dnsResults
        records := []
        recordsTotal := 0
        tokenStatus := none
        error := Token.hint }
  | .failed .keep message =>
      { dnsResults := results.dnsResults
        records := reconcileFailure results.records .keep
        recordsTotal := results.recordsTotal
        tokenStatus := results.tokenStatus
        error := message }
  | .failed .clear message =>
      { dnsResults := results.dnsResults
        records := reconcileFailure results.records .clear
        recordsTotal := 0
        tokenStatus := none
        error := message }
  | .accepted mode status page =>
      { dnsResults := results.dnsResults
        records := reconcile results.records page.items mode
        recordsTotal := page.total
        tokenStatus := some status
        error := "" }

/-- The status and the number of records that an outcome puts on display. -/
def heading? : Outcome → Option (Option TokenStatus × UInt64)
  | .rejected => some (none, 0)
  | .failed .keep _ => none
  | .failed .clear _ => some (none, 0)
  | .accepted _ status page => some (some status, page.total)

/-- The records that an outcome brings. -/
def items : Outcome → List DnsRecord
  | .accepted _ _ page => page.items
  | _ => []

/-- Whether an outcome leaves all records on display. -/
def isKeeping : Outcome → Bool
  | .rejected => false
  | .failed policy _ => policy == .keep
  | .accepted mode _ _ => mode == .append

end Outcome

/-! ## Transcripts -/

/-- What a poll has seen of the world. -/
structure Transcript where
  config : WatchConfig
  /-- The domain when the poll began. -/
  domain : String
  /-- The replies to the poll, each with whether a key was required when it arrived. -/
  replies : List (Reply × Bool)

namespace Transcript

/-- What a transcript comes to, once it is complete. -/
def outcome? (transcript : Transcript) : Option Outcome :=
  match Token.parse? transcript.domain, transcript.replies with
  | none, _ => some .rejected
  | some token, (first, required) :: (second, required') :: _ =>
      let query := PageQuery.first transcript.config.pageSize transcript.config.order
      some (.ofAnswers transcript.config
        (Gateway.outcome (Api.tokenStatus token) (some required) first)
        (Gateway.outcome (Api.tokenRecords token query) (some required') second))
  | some _, _ => none

/-- What is left of the poll. -/
def poll (transcript : Transcript) : Poll :=
  match Token.parse? transcript.domain, transcript.replies with
  | none, _ => .finished
  | some token, [] => .status token
  | some token, [(reply, required)] =>
      .records token (Gateway.outcome (Api.tokenStatus token) (some required) reply)
  | some _, _ => .finished

/-- The transcript with one more reply. -/
def hear (transcript : Transcript) (reply : Reply) (required : Bool) : Transcript :=
  { transcript with replies := transcript.replies ++ [(reply, required)] }

end Transcript

/-- The transcripts of all polls, and the order in which they became complete.  It is kept without
a look at the session's results. -/
structure Ledger where
  domain : String
  apiKeyRequired : Bool
  transcripts : List Transcript
  /-- The numbers of the complete transcripts, in the order in which they became complete. -/
  completed : List Nat

namespace Ledger

/-- The ledger with the transcript of a number, which is noted when it is complete. -/
def enter (ledger : Ledger) (index : Nat) (transcript : Transcript) : Ledger :=
  { ledger with
    transcripts :=
      if index < ledger.transcripts.length then ledger.transcripts.set index transcript
      else ledger.transcripts ++ [transcript]
    completed :=
      if transcript.outcome?.isSome then ledger.completed ++ [index] else ledger.completed }

/-- The ledger after an event. -/
def next (ledger : Ledger) : DeskEvent → Ledger
  | .begin config => ledger.enter ledger.transcripts.length ⟨config, ledger.domain, []⟩
  | .deliver index reply =>
      match ledger.transcripts[index]? with
      | none => ledger
      | some transcript =>
          if transcript.outcome?.isSome then ledger
          else ledger.enter index (transcript.hear reply ledger.apiKeyRequired)
  | .setDomain domain => { ledger with domain }
  | .answer _ _ => ledger
  | .answerConfig reply =>
      match Gateway.outcome Api.runtimeConfig (some ledger.apiKeyRequired) reply with
      | .ok runtime => { ledger with apiKeyRequired := runtime.apiKeyRequired }
      | .error _ => ledger

/-- The ledger after events one after the other. -/
def run (events : List DeskEvent) (ledger : Ledger) : Ledger := events.foldl next ledger

/-- The ledger of a session on which no poll was begun. -/
def start (session : Session) : Ledger :=
  ⟨session.text.domain, session.runtime.apiKeyRequired, [], []⟩

/-- What the transcript of a number comes to. -/
def outcomeAt? (ledger : Ledger) (index : Nat) : Option Outcome :=
  ledger.transcripts[index]?.bind Transcript.outcome?

/-- The outcomes of all finished polls, in the order in which they ended. -/
def outcomes (ledger : Ledger) : List Outcome := ledger.completed.filterMap ledger.outcomeAt?

end Ledger

/-! ## Ledgers -/

namespace Ledger

theorem outcomeAt?_enter {ledger : Ledger} {index : Nat} (le : index ≤ ledger.transcripts.length)
    (transcript : Transcript) (other : Nat) :
    (ledger.enter index transcript).outcomeAt? other =
      if other = index then transcript.outcome? else ledger.outcomeAt? other := by
  simp only [outcomeAt?, enter]
  split
  · rename_i old
    rw [List.getElem?_set]
    split
    · rename_i same
      simp [same]
    · rename_i different
      rw [if_neg (Ne.symm different)]
  · rename_i new
    have last : index = ledger.transcripts.length := by omega
    subst last
    split
    · rename_i same
      simp [same]
    · rename_i different
      by_cases below : other < ledger.transcripts.length
      · rw [List.getElem?_append_left below]
      · rw [List.getElem?_eq_none (by simp; omega), List.getElem?_eq_none (by omega)]

end Ledger

/-- A desk is as its ledger says. -/
structure Agrees (initial : Results) (desk : Desk) (ledger : Ledger) : Prop where
  domain : desk.session.text.domain = ledger.domain
  apiKeyRequired : desk.session.runtime.apiKeyRequired = ledger.apiKeyRequired
  polls : desk.polls = ledger.transcripts.map fun transcript => (transcript.config, transcript.poll)
  results : desk.session.results = ledger.outcomes.foldl Outcome.apply initial
  nodup : ledger.completed.Nodup
  mem_completed : ∀ index, index ∈ ledger.completed ↔ (ledger.outcomeAt? index).isSome

theorem Ledger.outcomes_enter {ledger : Ledger} {index : Nat}
    (le : index ≤ ledger.transcripts.length) (fresh : index ∉ ledger.completed)
    (transcript : Transcript) :
    (ledger.enter index transcript).outcomes = ledger.outcomes ++ transcript.outcome?.toList := by
  have others : ledger.completed.filterMap (ledger.enter index transcript).outcomeAt? =
      ledger.outcomes := by
    refine List.filterMap_congr fun other found => ?_
    rw [outcomeAt?_enter le, if_neg fun same : other = index => fresh (same ▸ found)]
  have own := outcomeAt?_enter le transcript index
  rw [if_pos rfl] at own
  rw [outcomes]
  cases complete : transcript.outcome? with
  | none =>
      have same : (ledger.enter index transcript).completed = ledger.completed := by
        simp [enter, complete]
      rw [same, others]
      simp
  | some outcome =>
      have more : (ledger.enter index transcript).completed = ledger.completed ++ [index] := by
        simp [enter, complete]
      rw [more, List.filterMap_append, others]
      simp [own, complete]

/-! ## Single polls -/

namespace Transcript

theorem isSome_outcome?_iff (transcript : Transcript) :
    transcript.outcome?.isSome ↔ transcript.poll = .finished := by
  unfold outcome? poll
  cases Token.parse? transcript.domain with
  | none => simp
  | some token =>
      cases transcript.replies with
      | nil => simp
      | cons first rest =>
          cases rest with
          | nil => simp
          | cons second rest => simp

/-- A poll that begins does to the results what its empty transcript comes to. -/
theorem start_eq (config : WatchConfig) (session : Session) :
    let transcript : Transcript := ⟨config, session.text.domain, []⟩
    let results := transcript.outcome?.toList.foldl Outcome.apply session.results
    Poll.start .token session = (transcript.poll, { session with results }) := by
  simp only [Poll.start, poll, outcome?]
  cases Token.parse? session.text.domain with
  | none => rfl
  | some token => rfl

theorem concludeToken_eq (config : WatchConfig) (status : Except ApiError TokenStatus)
    (page : Except ApiError (Page DnsRecord)) (results : Results) :
    Poll.concludeToken config status page results =
      Outcome.apply results (.ofAnswers config status page) := by
  cases status with
  | ok status =>
      cases page with
      | ok page => rfl
      | error error =>
          simp only [Poll.concludeToken, Poll.failToken, Outcome.ofAnswers]
          cases config.onFailure <;> rfl
  | error error =>
      simp only [Poll.concludeToken, Poll.failToken, Outcome.ofAnswers]
      cases config.onFailure <;> rfl

/-- A reply to a poll does to the results what the longer transcript comes to. -/
theorem receive_eq {transcript : Transcript} (incomplete : transcript.outcome? = none)
    (reply : Reply) (session : Session) :
    ∃ session' : Session,
      transcript.poll.receive transcript.config reply session =
          ((transcript.hear reply session.runtime.apiKeyRequired).poll, session') ∧
        session'.text = session.text ∧ session'.runtime = session.runtime ∧
        session'.results =
          (transcript.hear reply session.runtime.apiKeyRequired).outcome?.toList.foldl
            Outcome.apply session.results := by
  obtain ⟨config, domain, replies⟩ := transcript
  unfold outcome? at incomplete
  unfold poll outcome? hear
  dsimp only at *
  cases parsed : Token.parse? domain with
  | none =>
      rw [parsed] at incomplete
      cases incomplete
  | some token =>
      cases replies with
      | nil => exact ⟨_, rfl, rfl, rfl, rfl⟩
      | cons first rest =>
          cases rest with
          | nil => exact ⟨_, rfl, rfl, rfl, concludeToken_eq config _ _ _⟩
          | cons second rest => simp [parsed] at incomplete

end Transcript

/-! ## Events -/

section

variable {initial : Results} {desk : Desk} {ledger : Ledger}

theorem Agrees.enter (agrees : Agrees initial desk ledger) {index : Nat}
    (le : index ≤ ledger.transcripts.length) (fresh : ledger.outcomeAt? index = none)
    {transcript : Transcript} {session : Session} {polls : List (WatchConfig × Poll)}
    (text : session.text = desk.session.text) (runtime : session.runtime = desk.session.runtime)
    (results : session.results =
      transcript.outcome?.toList.foldl Outcome.apply desk.session.results)
    (polls_eq : polls = (ledger.enter index transcript).transcripts.map fun transcript =>
      (transcript.config, transcript.poll)) :
    Agrees initial ⟨session, polls⟩ (ledger.enter index transcript) := by
  have unlisted : index ∉ ledger.completed := by
    rw [agrees.mem_completed, fresh]
    simp
  have completed : (ledger.enter index transcript).completed =
      if transcript.outcome?.isSome then ledger.completed ++ [index] else ledger.completed := rfl
  refine ⟨?domain, ?apiKeyRequired, polls_eq, ?results, ?nodup, fun other => ?mem_completed⟩
  case domain => exact (congrArg TextModule.domain text).trans agrees.domain
  case apiKeyRequired =>
    exact (congrArg RuntimeConfig.apiKeyRequired runtime).trans agrees.apiKeyRequired
  case results =>
    rw [Ledger.outcomes_enter le unlisted, List.foldl_append, ← agrees.results]
    exact results
  case nodup =>
    rw [completed]
    split
    · refine List.nodup_append.mpr ⟨agrees.nodup, by simp, ?_⟩
      intro other found last single same
      rw [same, List.mem_singleton.mp single] at found
      exact unlisted found
    · exact agrees.nodup
  case mem_completed =>
    rw [completed, Ledger.outcomeAt?_enter le]
    by_cases same : other = index
    · subst same
      rw [if_pos rfl]
      cases transcript.outcome? <;> simp [unlisted]
    · rw [if_neg same, ← agrees.mem_completed]
      split <;> simp [same]

theorem Agrees.begin (agrees : Agrees initial desk ledger) (config : WatchConfig) :
    Agrees initial (desk.next (.begin config)) (ledger.next (.begin config)) := by
  have begun := Transcript.start_eq config desk.session
  simp only [Desk.next, Ledger.next, begun, ← agrees.domain]
  refine agrees.enter (Nat.le_refl _) ?_ rfl rfl rfl ?_
  · rw [Ledger.outcomeAt?, List.getElem?_eq_none (Nat.le_refl _)]
    rfl
  · rw [agrees.polls, Ledger.enter, if_neg (Nat.lt_irrefl _), List.map_append]
    rfl

theorem Agrees.deliver (agrees : Agrees initial desk ledger) (index : Nat) (reply : Reply) :
    Agrees initial (desk.next (.deliver index reply)) (ledger.next (.deliver index reply)) := by
  simp only [Desk.next, Ledger.next, agrees.polls, List.getElem?_map]
  cases known : ledger.transcripts[index]? with
  | none => exact agrees
  | some transcript =>
      obtain ⟨below, at_index⟩ := List.getElem?_eq_some_iff.mp known
      simp only [Option.map_some]
      split
      · rename_i complete
        have ended := (Transcript.isSome_outcome?_iff transcript).mp complete
        have kept : ledger.transcripts.set index transcript = ledger.transcripts := by
          rw [← at_index, List.set_getElem_self]
        have polls := congrArg
          (List.map fun transcript => (transcript.config, transcript.poll)) kept
        rw [List.map_set, ended] at polls
        rw [ended]
        exact { agrees with polls := polls }
      · rename_i incomplete
        rw [Option.not_isSome_iff_eq_none] at incomplete
        obtain ⟨session, received, text, runtime, results⟩ :=
          Transcript.receive_eq incomplete reply desk.session
        rw [received, ← agrees.apiKeyRequired]
        refine agrees.enter (Nat.le_of_lt below) ?_ text runtime results ?_
        · rw [Ledger.outcomeAt?, known]
          exact incomplete
        · rw [Ledger.enter, if_pos below, List.map_set]
          rfl

theorem Agrees.next (agrees : Agrees initial desk ledger) (event : DeskEvent) :
    Agrees initial (desk.next event) (ledger.next event) := by
  cases event with
  | begin config => exact agrees.begin config
  | deliver index reply => exact agrees.deliver index reply
  | setDomain domain => exact { agrees with domain := rfl }
  | answer endpoint reply => exact { agrees with }
  | answerConfig reply =>
      simp only [Desk.next, Ledger.next, Gateway.complete, ← agrees.apiKeyRequired]
      cases Gateway.outcome Api.runtimeConfig (some desk.session.runtime.apiKeyRequired) reply with
      | ok runtime => exact { agrees with apiKeyRequired := rfl }
      | error error => exact { agrees with }

end

/-- However the events come, the desk stays as its ledger says. -/
theorem Agrees.run {initial : Results} (events : List DeskEvent) {desk : Desk} {ledger : Ledger}
    (agrees : Agrees initial desk ledger) :
    Agrees initial (desk.run events) (ledger.run events) := by
  induction events generalizing desk ledger with
  | nil => exact agrees
  | cons event rest ih => exact ih (agrees.next event)

theorem agrees_start (session : Session) :
    Agrees session.results ⟨session, []⟩ (Ledger.start session) :=
  ⟨rfl, rfl, rfl, rfl, .nil, by simp [Ledger.start, Ledger.outcomeAt?]⟩

/-! ## The results on display -/

theorem heading_foldl (outcomes : List Outcome) (results : Results) :
    let after := outcomes.foldl Outcome.apply results
    (after.tokenStatus, after.recordsTotal) =
      (outcomes.filterMap Outcome.heading?).getLastD (results.tokenStatus, results.recordsTotal) := by
  induction outcomes generalizing results with
  | nil => rfl
  | cons outcome rest ih =>
      have rest_heading := ih (outcome.apply results)
      simp only [List.foldl_cons] at rest_heading ⊢
      rw [rest_heading, List.filterMap_cons]
      cases outcome with
      | rejected => rw [Outcome.heading?, List.getLastD_cons]; rfl
      | failed policy message =>
          cases policy with
          | keep => rfl
          | clear => rw [Outcome.heading?, List.getLastD_cons]; rfl
      | accepted mode status page => rw [Outcome.heading?, List.getLastD_cons]; rfl

theorem records_foldl {outcomes : List Outcome} (keeping : ∀ outcome ∈ outcomes, outcome.isKeeping)
    (results : Results) :
    (outcomes.foldl Outcome.apply results).records =
      results.records ++ outcomes.flatMap Outcome.items := by
  induction outcomes generalizing results with
  | nil => simp
  | cons outcome rest ih =>
      have first : (outcome.apply results).records = results.records ++ outcome.items := by
        have keeps := keeping outcome (by simp)
        cases outcome with
        | rejected => cases keeps
        | failed policy message => cases policy <;> simp_all [Outcome.isKeeping, Outcome.apply,
            Outcome.items, reconcileFailure]
        | accepted mode status page => cases mode <;> simp_all [Outcome.isKeeping, Outcome.apply,
            Outcome.items, reconcile]
      rw [List.foldl_cons, ih (fun other found => keeping other (List.mem_cons_of_mem _ found)),
        first, List.flatMap_cons, List.append_assoc]

/-- However any number of polls interleave with each other, with the user and with other calls, the
results on display are those of the finished polls alone, in the order in which they ended, and each
poll that ended counts once.  The status and the total on display are those of one outcome; and as
long as every outcome keeps what is on display, every page that was accepted is there once. -/
theorem polls_linearize_at_completion (session : Session) (events : List DeskEvent) :
    let desk := Desk.run events ⟨session, []⟩
    let ledger := Ledger.run events (.start session)
    desk.session.results = ledger.outcomes.foldl Outcome.apply session.results ∧
      (ledger.completed.Nodup ∧
        ∀ index, (index ∈ ledger.completed ↔ (ledger.outcomeAt? index).isSome) ∧
          (index ∈ ledger.completed ↔ ∃ config, desk.polls[index]? = some (config, .finished))) ∧
      (desk.session.results.tokenStatus, desk.session.results.recordsTotal) =
        (ledger.outcomes.filterMap Outcome.heading?).getLastD
          (session.results.tokenStatus, session.results.recordsTotal) ∧
      ((∀ outcome ∈ ledger.outcomes, outcome.isKeeping) →
        desk.session.results.records =
          session.results.records ++ ledger.outcomes.flatMap Outcome.items) := by
  intro desk ledger
  have agrees : Agrees session.results desk ledger := (agrees_start session).run events
  refine ⟨agrees.results, ⟨agrees.nodup, fun index => ⟨agrees.mem_completed index, ?_⟩⟩, ?_, ?_⟩
  · rw [agrees.mem_completed, agrees.polls, List.getElem?_map, Ledger.outcomeAt?]
    cases ledger.transcripts[index]? with
    | none => simp
    | some transcript => simp [Transcript.isSome_outcome?_iff]
  · rw [agrees.results]
    exact heading_foldl ledger.outcomes session.results
  · intro keeping
    rw [agrees.results]
    exact records_foldl keeping session.results

/-- A successful reply whose payload has items of the given texts. -/
def pageReply (items : String) : Reply :=
  .ok ⟨200, "\x7b\"code\":200,\"data\":\x7b\"items\":[" ++ items ++ "]\x7d\x7d"⟩

/-- Two polls overlap, and the later one ends first; the user has entered another domain by then. -/
theorem records_of_two_overlapping_polls :
    let config : WatchConfig := { mode := .append }
    let session : Session := { text := { domain := "0123456789.probe.example" } }
    let events : List DeskEvent :=
      [.begin config, .begin config, .deliver 0 (pageReply ""), .deliver 1 (pageReply ""),
        .setDomain "elsewhere", .deliver 1 (pageReply "\x7b\"id\":3\x7d"),
        .deliver 0 (pageReply "\x7b\"id\":1\x7d,\x7b\"id\":2\x7d")]
    (∀ outcome ∈ (Ledger.run events (.start session)).outcomes, outcome.isKeeping) ∧
      (Desk.run events ⟨session, []⟩).session.results.records =
        [{ id := 3 }, { id := 1 }, { id := 2 }] := by
  intro config session events
  have keeping :
      ∀ outcome ∈ (Ledger.run events (.start session)).outcomes, outcome.isKeeping := by
    decide +kernel
  have pages : session.results.records ++
      (Ledger.run events (.start session)).outcomes.flatMap Outcome.items =
        [{ id := 3 }, { id := 1 }, { id := 2 }] := by
    decide +kernel
  have shown := (polls_linearize_at_completion session events).2.2.2 keeping
  exact ⟨keeping, shown.trans pages⟩

end ProbeWatch
