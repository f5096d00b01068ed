import ProbeWatch.Proofs.Http.Envelope
import ProbeWatch.Proofs.Text.Blank
import ProbeWatch.Watch.Poll

/-!
# What a poll leaves on display

A poll runs from the domain that it finds to the change of the session that ends it, and others may
change the session whenever it waits.  The error that it leaves on display is that of the first of
its requests that failed, and there is none exactly if the domain was accepted and every request was
answered.  With the policy that clears results on a failure nothing stale stands beside an error,
but for the results of a submission whose domain was not accepted.
-/

namespace ProbeWatch

/-! ## Messages of failures -/

namespace ApiError

theorem message_ofStatus_ne_empty (status : UInt16) (path : String) (serverMessage : Option String)
    (apiKeyRequired : Option Bool) :
    (ofStatus status path serverMessage apiKeyRequired).message ≠ "" := by
  have told : (serverMessage.bind Text.trimmed?).getD genericMessage ≠ "" := by
    cases usable : serverMessage.bind Text.trimmed? with
    | none => decide
    | some kept =>
        obtain ⟨text, -, trimmed⟩ := Option.bind_eq_some_iff.mp usable
        exact Text.ne_empty_of_trimmed? trimmed
  rw [ofStatus]
  repeat' split
  all_goals first | exact told | simp

end ApiError

/-- Every call that fails does so with a message. -/
theorem Gateway.message_ne_empty_of_outcome {α : Type} {endpoint : Endpoint α}
    {apiKeyRequired : Option Bool} {reply : Reply} {error : ApiError}
    (failed : outcome endpoint apiKeyRequired reply = .error error) : error.message ≠ "" := by
  by_cases brought : ∃ data, Brings reply data
  · obtain ⟨data, brings⟩ := brought
    cases reads : endpoint.read data with
    | some value => cases failed.symm.trans (outcome_eq_ok_iff.mpr ⟨data, brings, reads⟩)
    | none =>
        cases failed.symm.trans (outcome_of_unreadable brings reads)
        simp [ApiError.unexpectedPayload]
  · cases reply with
    | error reason =>
        cases failed
        simp [ApiError.classify, ApiError.noResponse]
    | ok response =>
        obtain ⟨serverMessage, refused⟩ : ∃ serverMessage,
            outcome endpoint apiKeyRequired (.ok response) =
              .error (.ofStatus response.status endpoint.request.path serverMessage
                apiKeyRequired) :=
          exists_outcome_of_refused brought
        cases failed.symm.trans refused
        exact ApiError.message_ofStatus_ne_empty _ _ _ _

theorem Gateway.errorOf_eq_none_iff {α : Type} {result : Except ApiError α} :
    errorOf result = none ↔ ∃ value, result = .ok value := by
  cases result <;> simp [errorOf]

/-! ## Polls and their replies -/

/-- Whether a watch can poll a domain: a token in front of its first dot, or anything but blanks. -/
def Watched.Accepts : Watched → String → Prop
  | .token, domain =>
      (Token.label domain.toList).length = 10 ∧
        ∀ digit ∈ Token.label domain.toList, Text.isHexDigit digit = true
  | .submission, domain => ∃ c ∈ domain.toList, Text.isBlank c = false

theorem Watched.accepts_token_iff {domain : String} :
    Watched.token.Accepts domain ↔ Token.isDigits (Token.label domain.toList) = true := by
  rw [Accepts, Token.isDigits, Bool.and_eq_true, beq_iff_eq, List.all_eq_true]
  exact Iff.rfl

/-- What a person is told whose domain a watch cannot poll. -/
def Watched.hint : Watched → String
  | .token => Token.hint
  | .submission => Poll.emptyDomainHint

/-- Whether the replies to the requests of a poll are answers to all of them: each brings a payload
that reads as what was asked for. -/
def Watched.IsServedBy (replies : Nat → Reply) : Watched → Prop
  | .token =>
      (∃ data status, Brings (replies 0) data ∧ TokenStatus.ofJson? data = some status) ∧
        ∃ data page, Brings (replies 1) data ∧ Page.ofJson? DnsRecord.ofJson? data = some page
  | .submission =>
      ∃ data result, Brings (replies 0) data ∧ SubmitResult.ofJson? data = some result

namespace Poll

/-- Whether a reply is an answer to the request that a poll waits for. -/
def IsAnsweredBy (reply : Reply) : Poll → Prop
  | .status _ => ∃ data status, Brings reply data ∧ TokenStatus.ofJson? data = some status
  | .records .. => ∃ data page, Brings reply data ∧ Page.ofJson? DnsRecord.ofJson? data = some page
  | .submission _ => ∃ data result, Brings reply data ∧ SubmitResult.ofJson? data = some result
  | .finished => True

/-- The error that the call returns which a poll waits for, if it fails. -/
def failure? (config : WatchConfig) (apiKeyRequired : Bool) (reply : Reply) :
    Poll → Option ApiError
  | .status token =>
      Gateway.errorOf (Gateway.outcome (Api.tokenStatus token) (some apiKeyRequired) reply)
  | .records token _ =>
      Gateway.errorOf
        (Gateway.outcome (Api.tokenRecords token (recordsQuery config)) (some apiKeyRequired) reply)
  | .submission domain =>
      Gateway.errorOf (Gateway.outcome (Api.submitDomain domain) (some apiKeyRequired) reply)
  | .finished => none

variable {config : WatchConfig} {apiKeyRequired : Bool} {reply : Reply} {poll : Poll}

theorem failure?_eq_none_iff :
    poll.failure? config apiKeyRequired reply = none ↔ poll.IsAnsweredBy reply := by
  cases poll with
  | finished => simp [failure?, IsAnsweredBy]
  | _ =>
      simp only [failure?, IsAnsweredBy, Gateway.errorOf_eq_none_iff, Gateway.outcome_eq_ok_iff]
      exact exists_comm

theorem eq_finished_of_rank_eq_zero (ended : poll.rank = 0) : poll = .finished := by
  cases poll with
  | finished => rfl
  | _ => simp [rank] at ended

theorem message_ne_empty_of_failure? {failure : ApiError}
    (failed : poll.failure? config apiKeyRequired reply = some failure) : failure.message ≠ "" := by
  have told {α : Type} {endpoint : Endpoint α}
      (failed : Gateway.errorOf (Gateway.outcome endpoint (some apiKeyRequired) reply) =
        some failure) : failure.message ≠ "" := by
    cases result : Gateway.outcome endpoint (some apiKeyRequired) reply with
    | ok value => cases (result ▸ failed : Gateway.errorOf (.ok value) = some failure)
    | error error =>
        cases (result ▸ failed : Gateway.errorOf (α := α) (.error error) = some failure)
        exact Gateway.message_ne_empty_of_outcome result
  cases poll with
  | finished => cases failed
  | _ => exact told failed

end Poll

/-! ## The course of a poll -/

/-- A reply, and what others do to the session before it arrives. -/
structure Arrival where
  meanwhile : Session → Session
  reply : Reply

/-- A request of a poll that got its reply. -/
structure Hearing where
  /-- The poll as it waited for the reply. -/
  poll : Poll
  /-- Whether the session took an API key to be required when the reply arrived. -/
  apiKeyRequired : Bool
  reply : Reply

/-- The error that the call returned, if it failed. -/
def Hearing.failure? (config : WatchConfig) (hearing : Hearing) : Option ApiError :=
  hearing.poll.failure? config hearing.apiKeyRequired hearing.reply

/-- Whether these are the requests of a poll that gets the replies in turn. -/
def Watched.Asks (replies : Nat → Reply) (heard : List Hearing) : Watched → Prop
  | .token => ∃ token known required required',
      heard = [⟨.status token, required, replies 0⟩, ⟨.records token known, required', replies 1⟩]
  | .submission => ∃ domain required, heard = [⟨.submission domain, required, replies 0⟩]

theorem Watched.Asks.answered_iff {watched : Watched} {replies : Nat → Reply}
    {heard : List Hearing} (asks : watched.Asks replies heard) :
    (∀ hearing ∈ heard, hearing.poll.IsAnsweredBy hearing.reply) ↔ watched.IsServedBy replies := by
  cases watched with
  | token =>
      obtain ⟨token, known, required, required', rfl⟩ := asks
      simp [IsServedBy, Poll.IsAnsweredBy]
  | submission =>
      obtain ⟨domain, required, rfl⟩ := asks
      simp [IsServedBy, Poll.IsAnsweredBy]

/-- A poll under way. -/
structure Course where
  poll : Poll
  session : Session
  /-- The requests that got their replies, earliest first. -/
  heard : List Hearing

namespace Course

/-- A poll that has just begun. -/
def begin (watched : Watched) (session : Session) : Course :=
  let (poll, session) := Poll.start watched session
  ⟨poll, session, []⟩

/-- The reply arrives that the poll waits for. -/
def hear (config : WatchConfig) (course : Course) (arrival : Arrival) : Course :=
  let found := arrival.meanwhile course.session
  let (poll, session) := course.poll.receive config arrival.reply found
  ⟨poll, session, course.heard ++ [⟨course.poll, found.runtime.apiKeyRequired, arrival.reply⟩]⟩

/-- The poll at its end, when its requests got these replies in turn. -/
def finish (config : WatchConfig) (arrivals : Nat → Arrival) (course : Course) : Course :=
  if _ : course.poll.rank = 0 then
    course
  else
    (course.hear config (arrivals course.heard.length)).finish config arrivals
termination_by course.poll.rank
decreasing_by exact Poll.rank_receive_lt _ _ _ _ ‹_›

/-- The error of the first request that failed. -/
def firstFailure? (config : WatchConfig) (course : Course) : Option ApiError :=
  course.heard.findSome? (Hearing.failure? config)

end Course

/-- Whether there are no results on display of those that a watch maintains. -/
def Watched.IsBare : Watched → Results → Prop
  | .token, results =>
      results.records = [] ∧ results.recordsTotal = 0 ∧ results.tokenStatus = none
  | .submission, results => results.dnsResults = []

namespace Poll

/-- The failure of the first request for a token counts before that of the second. -/
theorem concludeToken_spec (config : WatchConfig) (status : Except ApiError TokenStatus)
    (page : Except ApiError (Page DnsRecord)) (results : Results) :
    let failure := (Gateway.errorOf status).or (Gateway.errorOf page)
    let after := concludeToken config status page results
    after.error = (failure.map (·.message)).getD "" ∧
      (config.onFailure = .clear → failure.isSome → Watched.token.IsBare after) := by
  have cleared (message : String) (clears : config.onFailure = .clear) :
      Watched.token.IsBare (failToken config message results) := by
    simp [failToken, clears, reconcileFailure, Watched.IsBare]
  cases status with
  | error error => exact ⟨rfl, fun clears _ => cleared _ clears⟩
  | ok status =>
      cases page with
      | error error => exact ⟨rfl, fun clears _ => cleared _ clears⟩
      | ok page => exact ⟨rfl, fun _ failed => by cases failed⟩

theorem concludeSubmission_spec (config : WatchConfig) (answer : Except ApiError SubmitResult)
    (session : Session) :
    let after := (concludeSubmission config answer session).results
    after.error = ((Gateway.errorOf answer).map (·.message)).getD "" ∧
      (config.onFailure = .clear → (Gateway.errorOf answer).isSome →
        Watched.submission.IsBare after) := by
  cases answer with
  | ok result => exact ⟨rfl, fun _ failed => by cases failed⟩
  | error error =>
      refine ⟨rfl, fun clears _ => ?_⟩
      simp [concludeSubmission, clears, reconcileFailure, Watched.IsBare]

end Poll

namespace Course

/-- What is known of a poll whose domain was accepted: before its end only the first request of two
got its reply, and at the end its failure is on display or else that of the second. -/
def Sound (config : WatchConfig) (watched : Watched) (replies : Nat → Reply) (course : Course) :
    Prop :=
  match course.poll with
  | .status _ => watched = .token ∧ course.heard = []
  | .records token known =>
      watched = .token ∧
        (∃ required, course.heard = [⟨.status token, required, replies 0⟩]) ∧
        Gateway.errorOf known = course.firstFailure? config
  | .submission _ => watched = .submission ∧ course.heard = []
  | .finished =>
      watched.Asks replies course.heard ∧
        course.session.results.error = ((course.firstFailure? config).map (·.message)).getD "" ∧
        (config.onFailure = .clear → (course.firstFailure? config).isSome →
          watched.IsBare course.session.results)

variable {config : WatchConfig} {watched : Watched} {session : Session}

theorem sound_begin (config : WatchConfig) (replies : Nat → Reply)
    (accepted : watched.Accepts session.text.domain) :
    (begin watched session).Sound config watched replies := by
  cases watched with
  | token =>
      simp [begin, Poll.start, Token.parse?, Watched.accepts_token_iff.mp accepted, Sound]
  | submission =>
      have filled : (Text.trimmed? session.text.domain).isSome := by
        rw [Text.isSome_trimmed?_iff, Bool.eq_false_iff, ne_eq, Text.isAllBlank_iff]
        obtain ⟨c, found, visible⟩ := accepted
        exact fun blank => by simp [blank c found] at visible
      obtain ⟨domain, entered⟩ := Option.isSome_iff_exists.mp filled
      simp [begin, Poll.start, entered, Sound]

/-- The results that a domain leaves on display which is not accepted. -/
def rejected (watched : Watched) (results : Results) : Results :=
  match watched with
  | .token => Poll.rejectToken results
  | .submission => { results with error := Poll.emptyDomainHint }

theorem finish_of_rejected (config : WatchConfig) (arrivals : Nat → Arrival)
    (refused : ¬ watched.Accepts session.text.domain) :
    (begin watched session).finish config arrivals =
      ⟨.finished, { session with results := rejected watched session.results }, []⟩ := by
  have begun : begin watched session =
      ⟨.finished, { session with results := rejected watched session.results }, []⟩ := by
    cases watched with
    | token =>
        have other := mt Watched.accepts_token_iff.mpr refused
        simp [begin, Poll.start, Token.parse?, other, rejected]
    | submission =>
        have blank : ¬ (Text.trimmed? session.text.domain).isSome := by
          rw [Text.isSome_trimmed?_iff, Bool.not_eq_false, Text.isAllBlank_iff]
          intro c found
          by_contra visible
          exact refused ⟨c, found, by simpa using visible⟩
        simp [begin, Poll.start, Option.not_isSome_iff_eq_none.mp blank, rejected]
  rw [finish, dif_pos (by rw [begun]; rfl), begun]

theorem firstFailure?_hear (config : WatchConfig) (course : Course) (arrival : Arrival) :
    (course.hear config arrival).firstFailure? config =
      (course.firstFailure? config).or
        (course.poll.failure? config
          (arrival.meanwhile course.session).runtime.apiKeyRequired arrival.reply) := by
  simp only [firstFailure?, hear, List.findSome?_append, List.findSome?_cons, List.findSome?_nil]
  congr 1
  simp only [Hearing.failure?]
  split <;> simp_all

theorem Sound.hear {replies : Nat → Reply} {course : Course}
    (sound : course.Sound config watched replies) (unfinished : course.poll.rank ≠ 0)
    {arrival : Arrival} (next : arrival.reply = replies course.heard.length) :
    (course.hear config arrival).Sound config watched replies := by
  have failed := firstFailure?_hear config course arrival
  obtain ⟨poll, session, heard⟩ := course
  cases poll with
  | status token =>
      obtain ⟨rfl, rfl⟩ := sound
      exact ⟨rfl, ⟨_, by rw [Course.hear, next]; rfl⟩, failed.symm⟩
  | records token known =>
      obtain ⟨rfl, ⟨required, rfl⟩, first⟩ := sound
      rw [← first] at failed
      have concluded := Poll.concludeToken_spec config known
        (Gateway.outcome (Api.tokenRecords token (Poll.recordsQuery config))
          (some (arrival.meanwhile session).runtime.apiKeyRequired) arrival.reply)
        (arrival.meanwhile session).results
      refine ⟨⟨token, known, required, _, by rw [Course.hear, next]; rfl⟩, ?_⟩
      rw [failed]
      exact concluded
  | submission domain =>
      obtain ⟨rfl, rfl⟩ := sound
      refine ⟨⟨domain, _, by rw [Course.hear, next]; rfl⟩, ?_⟩
      rw [failed]
      exact Poll.concludeSubmission_spec config _ _
  | finished => exact absurd rfl unfinished

/-- Whatever others do in the meantime, a poll whose domain was accepted comes to an end. -/
theorem Sound.finish {arrivals : Nat → Arrival} {course : Course}
    (sound : course.Sound config watched fun index => (arrivals index).reply) :
    (course.finish config arrivals).poll = .finished ∧
      (course.finish config arrivals).Sound config watched fun index => (arrivals index).reply := by
  fun_induction Course.finish config arrivals course with
  | case1 course finished => exact ⟨Poll.eq_finished_of_rank_eq_zero finished, sound⟩
  | case2 course unfinished ih => exact ih (sound.hear unfinished rfl)

theorem isSome_firstFailure?_iff (config : WatchConfig) {replies : Nat → Reply} {course : Course}
    (asks : watched.Asks replies course.heard) :
    (course.firstFailure? config).isSome ↔ ¬ watched.IsServedBy replies := by
  rw [← asks.answered_iff, Option.isSome_iff_ne_none, ne_eq, firstFailure?,
    List.findSome?_eq_none_iff]
  simp only [Hearing.failure?, Poll.failure?_eq_none_iff]

theorem message_ne_empty_of_firstFailure? {course : Course} {failure : ApiError}
    (failed : course.firstFailure? config = some failure) : failure.message ≠ "" := by
  obtain ⟨hearing, -, found⟩ := List.exists_of_findSome?_eq_some failed
  exact Poll.message_ne_empty_of_failure? found

/-- A poll that is over shows no error exactly if all its requests were answered. -/
theorem Sound.error_eq_empty_iff {replies : Nat → Reply} {course : Course}
    (sound : course.Sound config watched replies) (finished : course.poll = .finished) :
    course.session.results.error = "" ↔ watched.IsServedBy replies := by
  simp only [Sound, finished] at sound
  obtain ⟨asks, told, -⟩ := sound
  rw [told, ← not_iff_not, ← isSome_firstFailure?_iff config asks]
  cases failed : course.firstFailure? config with
  | none => simp
  | some failure => simpa using message_ne_empty_of_firstFailure? failed

end Course

theorem Watched.hint_ne_empty (watched : Watched) : watched.hint ≠ "" := by
  cases watched <;> decide

namespace Course

/-- Every poll comes to an end, whatever others do to the session in the meantime and whatever
replies its requests get.  There is then no error on display exactly if its domain was accepted and
every request was answered.  A poll whose domain was not accepted makes no request and leaves the
reason on display, and any other one the message of its first request that failed; neither is ever
empty. -/
theorem error_is_first_failure (config : WatchConfig) (watched : Watched) (session : Session)
    (arrivals : Nat → Arrival) :
    let replies (index : Nat) := (arrivals index).reply
    let course := (begin watched session).finish config arrivals
    let error := course.session.results.error
    course.poll = .finished ∧
      (error = "" ↔ watched.Accepts session.text.domain ∧ watched.IsServedBy replies) ∧
      (¬ watched.Accepts session.text.domain →
        course.heard = [] ∧ error = watched.hint ∧ watched.hint ≠ "") ∧
      (watched.Accepts session.text.domain →
        watched.Asks replies course.heard ∧
          (¬ watched.IsServedBy replies → ∃ failure,
            course.firstFailure? config = some failure ∧ error = failure.message ∧
              failure.message ≠ "")) := by
  intro replies course error
  by_cases accepted : watched.Accepts session.text.domain
  · obtain ⟨finished, sound⟩ := (sound_begin config replies accepted).finish
    have shown : error = "" ↔ watched.IsServedBy replies := sound.error_eq_empty_iff finished
    refine ⟨finished, ?_, fun rejected => absurd accepted rejected, fun _ => ?_⟩
    · rw [shown]
      exact (and_iff_right accepted).symm
    · simp only [Sound, finished] at sound
      obtain ⟨asks, told, -⟩ := sound
      refine ⟨asks, fun unserved => ?_⟩
      obtain ⟨failure, failed⟩ :=
        Option.isSome_iff_exists.mp ((isSome_firstFailure?_iff config asks).mpr unserved)
      refine ⟨failure, failed, ?_, message_ne_empty_of_firstFailure? failed⟩
      exact told.trans (congrArg (fun first => (first.map ApiError.message).getD "") failed)
  · have ended : course = ⟨.finished, _, []⟩ := finish_of_rejected config arrivals accepted
    have told : error = watched.hint := by
      rw [show error = course.session.results.error from rfl, ended]
      cases watched <;> rfl
    refine ⟨by rw [ended], ?_, fun _ => ⟨by rw [ended], told, watched.hint_ne_empty⟩,
      fun contrary => absurd contrary accepted⟩
    exact iff_of_false (told ▸ watched.hint_ne_empty) fun both => accepted both.1

/-- The status of a token is refused and its lookups bring no response at all, while the user enters
another domain; the refusal is what is left on display. -/
theorem error_of_two_failures :
    let session : Session := { text := { domain := " A1B2C3D4E5.example" } }
    let arrivals : Nat → Arrival
      | 0 => ⟨(·.setDomain ""), .ok ⟨401, "\x7b\"code\":401,\"message\":\" \"\x7d"⟩⟩
      | _ => ⟨id, .error (.timeout "")⟩
    let course := (begin .token session).finish {} arrivals
    Watched.token.Accepts session.text.domain ∧
      ¬ Watched.token.IsServedBy (fun index => (arrivals index).reply) ∧
      course.session.results.error = "unauthorized: configure an API key" := by
  intro session arrivals course
  have accepted : Watched.token.Accepts session.text.domain :=
    Watched.accepts_token_iff.mpr (by decide +kernel)
  have refused : course.firstFailure? {} =
      some ⟨401, .unauthorized, "unauthorized: configure an API key"⟩ := by
    decide +kernel
  obtain ⟨asks, unserved⟩ := (error_is_first_failure {} .token session arrivals).2.2.2 accepted
  have unanswered :=
    (isSome_firstFailure?_iff {} asks).mp (Option.isSome_iff_exists.mpr ⟨_, refused⟩)
  obtain ⟨failure, first, shown, -⟩ := unserved unanswered
  cases first.symm.trans refused
  exact ⟨accepted, unanswered, shown⟩

/-! ## Results beside an error -/

/-- With the policy that clears results on a failure, a poll that leaves an error on display leaves
none of the results beside it that its watch maintains, whichever way it failed, except where a
submission finds a domain that it does not accept: the results stay as they are then. -/
theorem nothing_stale_but_after_rejection {config : WatchConfig}
    (clears : config.onFailure = .clear) (watched : Watched) (session : Session)
    (arrivals : Nat → Arrival) :
    let course := (begin watched session).finish config arrivals
    let results := course.session.results
    course.poll = .finished ∧
      (results.error ≠ "" → watched = .token ∨ watched.Accepts session.text.domain →
        watched.IsBare results) ∧
      (watched = .submission → ¬ watched.Accepts session.text.domain →
        results = { session.results with error := watched.hint }) := by
  intro course results
  by_cases accepted : watched.Accepts session.text.domain
  · obtain ⟨finished, sound⟩ :=
      (sound_begin config (fun index => (arrivals index).reply) accepted).finish
    refine ⟨finished, fun failed _ => ?_, fun _ rejected => absurd accepted rejected⟩
    rw [ne_eq, sound.error_eq_empty_iff finished] at failed
    simp only [Sound, finished] at sound
    obtain ⟨asks, -, cleared⟩ := sound
    exact cleared clears ((isSome_firstFailure?_iff config asks).mpr failed)
  · have ended : course = ⟨.finished, _, []⟩ := finish_of_rejected config arrivals accepted
    have left : results = rejected watched session.results := congrArg (·.session.results) ended
    refine ⟨by rw [ended], fun _ reason => ?_, fun submitted _ => ?_⟩
    · obtain rfl := reason.resolve_right accepted
      rw [left]
      exact ⟨rfl, rfl, rfl⟩
    · subst submitted
      exact left

/-- The records of a token go when its status is refused. -/
theorem nothing_stale_after_refusal :
    let session : Session :=
      { text := { domain := "a1b2c3d4e5" }
        results := { records := [{ id := 7 }], recordsTotal := 1, tokenStatus := some {} } }
    let config : WatchConfig := { onFailure := .clear }
    let course := (begin .token session).finish config fun _ => ⟨id, .ok ⟨403, ""⟩⟩
    config.onFailure = .clear ∧ course.session.results.error ≠ "" ∧
      course.session.results.records = [] ∧ course.session.results.recordsTotal = 0 ∧
      course.session.results.tokenStatus = none := by
  intro session config course
  have failed : course.session.results.error ≠ "" := by decide +kernel
  exact ⟨rfl, failed,
    (nothing_stale_but_after_rejection rfl .token session _).2.1 failed (.inl rfl)⟩

/-- The addresses of an earlier submission stay beside the error when the domain is blank. -/
theorem stale_results_beside_hint :
    let session : Session :=
      { text := { domain := " " }, results := { dnsResults := [{ ip := "192.0.2.1" }] } }
    let course := (begin .submission session).finish { onFailure := .clear } fun _ =>
      ⟨id, .ok ⟨200, ""⟩⟩
    course.poll.rank = 0 ∧ course.session.results.error = "enter a domain to query" ∧
      course.session.results.dnsResults = [{ ip := "192.0.2.1" }] := by
  decide +kernel

end Course
end ProbeWatch
