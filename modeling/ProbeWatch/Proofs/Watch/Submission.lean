import ProbeWatch.Proofs.Http.Envelope
import ProbeWatch.Proofs.Watch.Overlap

/-!
# Polls that submit the domain

A poll of a submission reads the session's domain, and once the backend has answered it writes the
backend's own name of that domain back.  It does not look at the domain again before it does, so
the domain on display is the one written last, and a poll may write over what was entered while it
waited.
-/

namespace ProbeWatch

/-! ## Submissions among other events -/

/-- What happens to a session on which domains are submitted. -/
inductive SubmissionEvent : Type 1
  /-- A poll that submits the domain begins. -/
  | submit (config : WatchConfig)
  /-- Something else happens; it may be the reply to a submission. -/
  | other (event : DeskEvent)

/-- Whether an event is the reply to the poll of a number. -/
def SubmissionEvent.IsReplyTo (index : Nat) : SubmissionEvent → Prop
  | .other (.deliver answered _) => answered = index
  | _ => False

/-- The name that a reply tells of a submitted domain; an empty one is none. -/
def canonical? (reply : Reply) : Option String :=
  match Gateway.payload (Api.submitDomain "").request.path none reply with
  | .ok data => ((SubmitResult.ofJson? data).map (·.domain)).filter fun name => !name.isEmpty
  | .error _ => none

namespace Desk

/-- The desk after an event. -/
def advance (desk : Desk) : SubmissionEvent → Desk
  | .submit config =>
      let (poll, session) := Poll.start .submission desk.session
      ⟨session, desk.polls ++ [(config, poll)]⟩
  | .other event => desk.next event

/-- The desk after events one after the other. -/
def play (events : List SubmissionEvent) (desk : Desk) : Desk := events.foldl advance desk

/-- The domain that an event writes: what the user enters, or the name that a waiting submission is
told. -/
def written? (desk : Desk) : SubmissionEvent → Option String
  | .other (.setDomain domain) => some domain
  | .other (.deliver index reply) =>
      match desk.polls[index]? with
      | some (_, .submission _) => canonical? reply
      | _ => none
  | _ => none

/-- The domains that events write, in this order. -/
def writes : List SubmissionEvent → Desk → List String
  | [], _ => []
  | event :: rest, desk => (desk.written? event).toList ++ writes rest (desk.advance event)

end Desk

/-! ## What a poll writes -/

theorem canonical?_eq_some_iff {reply : Reply} {name : String} :
    canonical? reply = some name ↔
      ∃ data result, Brings reply data ∧ SubmitResult.ofJson? data = some result ∧
        result.domain = name ∧ name.isEmpty = false := by
  rw [canonical?]
  constructor
  · intro told
    split at told
    · rename_i data brought
      obtain ⟨found, filled⟩ := Option.filter_eq_some_iff.mp told
      obtain ⟨result, reads, rfl⟩ := Option.map_eq_some_iff.mp found
      exact ⟨data, result, Gateway.payload_eq_ok_iff.mp brought, reads, rfl, by simpa using filled⟩
    · cases told
  · rintro ⟨data, result, brings, reads, rfl, filled⟩
    simp only [Gateway.payload_eq_ok_iff.mpr brings, reads]
    exact Option.filter_eq_some_iff.mpr ⟨rfl, by simpa using filled⟩

section

variable {submitted : String} {apiKeyRequired : Option Bool} {reply : Reply}

theorem canonical?_of_ok {result : SubmitResult}
    (answered : Gateway.outcome (Api.submitDomain submitted) apiKeyRequired reply = .ok result) :
    canonical? reply = if result.domain.isEmpty then none else some result.domain := by
  obtain ⟨data, brings, reads⟩ := Gateway.outcome_eq_ok_iff.mp answered
  replace reads : SubmitResult.ofJson? data = some result := reads
  simp only [canonical?, Gateway.payload_eq_ok_iff.mpr brings, reads, Option.map_some,
    Option.filter_some]
  cases result.domain.isEmpty <;> rfl

theorem canonical?_of_error {error : ApiError}
    (failed : Gateway.outcome (Api.submitDomain submitted) apiKeyRequired reply = .error error) :
    canonical? reply = none := by
  by_contra told
  obtain ⟨name, told⟩ := Option.ne_none_iff_exists'.mp told
  obtain ⟨data, result, brings, reads, -, -⟩ := canonical?_eq_some_iff.mp told
  have answered : Gateway.outcome (Api.submitDomain submitted) apiKeyRequired reply = .ok result :=
    Gateway.outcome_eq_ok_iff.mpr ⟨data, brings, reads⟩
  cases failed.symm.trans answered

end

namespace Poll

theorem domain_start (watched : Watched) (session : Session) :
    (start watched session).2.text.domain = session.text.domain := by
  cases watched with
  | token =>
      rw [start]
      cases Token.parse? session.text.domain <;> rfl
  | submission =>
      rw [start]
      cases Text.trimmed? session.text.domain <;> rfl

theorem domain_receive_submission (config : WatchConfig) (reply : Reply) (session : Session)
    (submitted : String) :
    (receive config reply session (.submission submitted)).2.text.domain =
      (canonical? reply).getD session.text.domain := by
  simp only [receive, Gateway.complete]
  cases answered : Gateway.outcome (Api.submitDomain submitted)
      (some session.runtime.apiKeyRequired) reply with
  | ok result =>
      rw [canonical?_of_ok answered]
      simp only [concludeSubmission]
      split <;> rfl
  | error error =>
      rw [canonical?_of_error answered]
      rfl

theorem domain_receive_of_ne_submission (config : WatchConfig) (reply : Reply) (session : Session)
    {poll : Poll} (other : ∀ submitted, poll ≠ .submission submitted) :
    (receive config reply session poll).2.text.domain = session.text.domain := by
  cases poll with
  | submission submitted => exact (other submitted rfl).elim
  | status token => simp only [receive, Gateway.complete, Session.setApiError]
  | records token known => simp only [receive, Gateway.complete, Session.setApiError]
  | finished => rfl

end Poll

/-! ## Events -/

namespace Desk

theorem domain_advance (desk : Desk) (event : SubmissionEvent) :
    (desk.advance event).session.text.domain =
      (desk.written? event).getD desk.session.text.domain := by
  cases event with
  | submit config =>
      simp only [advance, written?, Option.getD_none]
      exact Poll.domain_start .submission desk.session
  | other event =>
      cases event with
      | begin config =>
          simp only [advance, next, written?, Option.getD_none]
          exact Poll.domain_start .token desk.session
      | setDomain domain => rfl
      | answer endpoint reply => rfl
      | answerConfig reply =>
          simp only [advance, next, Api.adoptRuntimeConfig]
          split <;> rfl
      | deliver index reply =>
          simp only [advance, next, written?]
          cases found : desk.polls[index]? with
          | none => rfl
          | some entry =>
              obtain ⟨config, poll⟩ := entry
              cases poll with
              | submission submitted =>
                  exact Poll.domain_receive_submission config reply desk.session submitted
              | _ => exact Poll.domain_receive_of_ne_submission config reply desk.session (by simp)

theorem domain_play (events : List SubmissionEvent) (desk : Desk) :
    (play events desk).session.text.domain =
      (writes events desk).getLastD desk.session.text.domain := by
  induction events generalizing desk with
  | nil => rfl
  | cons event rest ih =>
      have later : (play (event :: rest) desk).session.text.domain =
          (writes rest (desk.advance event)).getLastD (desk.advance event).session.text.domain :=
        ih (desk.advance event)
      rw [later, domain_advance, writes]
      cases desk.written? event with
      | none => rfl
      | some domain => simp only [Option.toList_some, List.singleton_append, List.getLastD_cons,
          Option.getD_some]

theorem polls_advance {desk : Desk} {index : Nat} {entry : WatchConfig × Poll}
    (waiting : desk.polls[index]? = some entry) {event : SubmissionEvent}
    (elsewhere : ¬ event.IsReplyTo index) : (desk.advance event).polls[index]? = some entry := by
  have inside : index < desk.polls.length := (List.getElem?_eq_some_iff.mp waiting).1
  cases event with
  | submit config => exact (List.getElem?_append_left inside).trans waiting
  | other event =>
      cases event with
      | begin config => exact (List.getElem?_append_left inside).trans waiting
      | deliver other reply =>
          simp only [advance, next]
          split
          · exact waiting
          · exact (List.getElem?_set_ne elsewhere).trans waiting
      | _ => exact waiting

theorem polls_play {index : Nat} {entry : WatchConfig × Poll} {events : List SubmissionEvent}
    (elsewhere : ∀ event ∈ events, ¬ event.IsReplyTo index) {desk : Desk}
    (waiting : desk.polls[index]? = some entry) :
    (play events desk).polls[index]? = some entry := by
  induction events generalizing desk with
  | nil => exact waiting
  | cons event rest ih =>
      exact ih (fun later found => elsewhere later (.tail _ found))
        (polls_advance waiting (elsewhere event List.mem_cons_self))

theorem polls_submit {desk : Desk} {submitted : String}
    (entered : Text.trimmed? desk.session.text.domain = some submitted) (config : WatchConfig) :
    (desk.advance (.submit config)).polls[desk.polls.length]? =
      some (config, .submission submitted) := by
  simp [advance, Poll.start, entered]

/-- The domain on display is the one that was written last, whoever wrote it.  A poll that submits
the domain waits for its reply whatever is entered in between.  The name that the reply tells then
takes the place of what is on display, which outlasts the poll only if the reply tells no other
name. -/
theorem submission_writes_last (session : Session) (events : List SubmissionEvent) :
    let desk := play events ⟨session, []⟩
    desk.session.text.domain = (writes events ⟨session, []⟩).getLastD session.text.domain ∧
      ∀ config submitted, Text.trimmed? desk.session.text.domain = some submitted →
        ∀ between, (∀ event ∈ between, ¬ event.IsReplyTo desk.polls.length) → ∀ reply,
          let before := play between (desk.advance (.submit config))
          let after := before.advance (.other (.deliver desk.polls.length reply))
          before.polls[desk.polls.length]? = some (config, .submission submitted) ∧
            before.session.text.domain =
              (writes between (desk.advance (.submit config))).getLastD
                desk.session.text.domain ∧
            after.polls[desk.polls.length]? = some (config, .finished) ∧
            after.session.text.domain = (canonical? reply).getD before.session.text.domain ∧
            (after.session.text.domain = before.session.text.domain ↔
              ∀ name, canonical? reply = some name → name = before.session.text.domain) := by
  intro desk
  refine ⟨domain_play events ⟨session, []⟩, ?_⟩
  intro config submitted entered between elsewhere reply before after
  have waiting : before.polls[desk.polls.length]? = some (config, .submission submitted) :=
    polls_play elsewhere (polls_submit entered config)
  have shown : before.session.text.domain =
      (writes between (desk.advance (.submit config))).getLastD desk.session.text.domain := by
    refine (domain_play between _).trans ?_
    rw [domain_advance desk (.submit config)]
    rfl
  have overwritten : after.session.text.domain =
      (canonical? reply).getD before.session.text.domain := by
    refine (domain_advance before _).trans ?_
    simp only [written?, waiting]
  have inside : desk.polls.length < before.polls.length := (List.getElem?_eq_some_iff.mp waiting).1
  refine ⟨waiting, shown, ?_, overwritten, ?_⟩
  · simp only [after, advance, next, waiting]
    exact List.getElem?_set_self inside
  · rw [overwritten]
    cases canonical? reply with
    | none => simp
    | some name => simp

/-- A successful reply to a submission, with the backend's name of the domain. -/
def submitReply (name : String) : Reply :=
  .ok ⟨200, "\x7b\"code\":200,\"data\":\x7b\"domain\":\"" ++ name ++ "\"\x7d\x7d"⟩

/-- A domain that is entered while another one is being submitted stays if the backend knows of no
name for that one. -/
theorem entered_domain_outlasts_nameless_reply :
    let session : Session := { text := { domain := " a.example" } }
    let desk := play [] ⟨session, []⟩
    let between : List SubmissionEvent := [.other (.setDomain "b.example")]
    let before := play between (desk.advance (.submit {}))
    let after := before.advance (.other (.deliver desk.polls.length (submitReply "")))
    Text.trimmed? desk.session.text.domain = some "a.example" ∧
      (∀ event ∈ between, ¬ event.IsReplyTo desk.polls.length) ∧
      after.session.text.domain = "b.example" := by
  intro session desk between before after
  have entered : Text.trimmed? desk.session.text.domain = some "a.example" := by
    decide +kernel
  have elsewhere : ∀ event ∈ between, ¬ event.IsReplyTo desk.polls.length := by
    simp [between, SubmissionEvent.IsReplyTo]
  have nameless : canonical? (submitReply "") = none := by
    decide +kernel
  have shown : before.session.text.domain = "b.example" := by
    decide +kernel
  have unchanged := ((submission_writes_last session []).2 {} "a.example" entered between elsewhere
    (submitReply "")).2.2.2.2
  have kept : after.session.text.domain = before.session.text.domain := by
    simpa only [after, before, desk] using
      unchanged.mpr fun name told => by cases nameless.symm.trans told
  exact ⟨entered, elsewhere, kept.trans shown⟩

/-- A domain that is entered while another one is being submitted is lost to the backend's name of
that one. -/
theorem entered_domain_is_overwritten :
    let desk : Desk := ⟨{ text := { domain := "a.example" } }, []⟩
    let before := play [.other (.setDomain "b.example")] (desk.advance (.submit {}))
    let after := before.advance (.other (.deliver 0 (submitReply "c.example")))
    (desk.advance (.submit {})).polls = [({}, .submission "a.example")] ∧
      before.session.text.domain = "b.example" ∧ after.session.text.domain = "c.example" := by
  intro desk before after
  have entered : Text.trimmed? desk.session.text.domain = some "a.example" := by
    decide +kernel
  refine ⟨?_, by decide +kernel, by decide +kernel⟩
  simp [advance, Poll.start, entered, desk]

end Desk
end ProbeWatch
