import ProbeWatch.Proofs.Client.Operation
import ProbeWatch.Proofs.Http.Envelope
import ProbeWatch.Proofs.Text.Blank

/-!
# The session's error

Any number of calls to the backend are under way on one session, and their replies come in any
order.  The error on display is the outcome of the call that returned last.
-/

namespace ProbeWatch

/-! ## Calls under way -/

/-- What is asked of the backend. -/
inductive Inquiry
  /-- A request that belongs to no endpoint. -/
  | request (request : Request)
  /-- A call to an endpoint. -/
  | call (call : Api.Call)
  /-- A question for the backend's setup, which is adopted. -/
  | setup

namespace Inquiry

/-- What the answer is read as. -/
def Answer : Inquiry → Type
  | .request _ => Json
  | .call made => made.Answer
  | .setup => RuntimeConfig

/-- The endpoint that is asked. -/
def endpoint : (inquiry : Inquiry) → Endpoint inquiry.Answer
  | .request made => Api.raw made
  | .call made => made.endpoint
  | .setup => Api.runtimeConfig

/-- The session that takes over what was answered. -/
def adopt : (inquiry : Inquiry) → Except ApiError inquiry.Answer → Session → Session
  | .setup, result, session => Api.adoptRuntimeConfig result session
  | .request _, _, session => session
  | .call _, _, session => session

/-- Whether a payload is an answer. -/
def Accepts : Inquiry → Json → Prop
  | .request _, _ => True
  | .call (.submitDomain _), data => ∃ result, SubmitResult.ofJson? data = some result
  | .call .randomDomain, data =>
      ∃ domain, (data = .string domain ∨ data.member? "domain" = some (.string domain)) ∧
        Text.isAllBlank domain = false
  | .call (.tokenStatus _), data => ∃ status, TokenStatus.ofJson? data = some status
  | .call (.tokenRecords ..), data => ∃ page, Page.ofJson? DnsRecord.ofJson? data = some page
  | .call (.listTokens _), data => ∃ page, Page.ofJson? TokenSummary.ofJson? data = some page
  | .call (.createApiKey ..), data => ∃ key, CreatedApiKey.ofJson? data = some key
  | .call (.listApiKeys _), data => ∃ page, Page.ofJson? ApiKeyInfo.ofJson? data = some page
  | .call (.disableApiKey _), _ => True
  | .call (.addBlacklist ..), _ => True
  | .call (.listBlacklist _), data =>
      ∃ page, Page.ofJson? BlacklistEntry.ofJson? data = some page
  | .call (.disableBlacklist _), _ => True
  | .call .runtimeConfig, data => ∃ runtime, Api.readRuntimeConfig data = some runtime
  | .setup, data => ∃ runtime, Api.readRuntimeConfig data = some runtime

end Inquiry

/-- A call that returned. -/
structure Return where
  inquiry : Inquiry
  /-- The reply that it waited for. -/
  reply : Reply
  /-- What it returned. -/
  result : Except ApiError inquiry.Answer

/-- A session and the calls that were made on it. -/
structure Switchboard where
  session : Session
  /-- The calls that were made, in this order; there is nothing left of one that returned. -/
  calls : List (Option Inquiry)
  /-- What calls returned, earliest first. -/
  returns : List Return

namespace Switchboard

/-- What happens to a session next. -/
inductive Event
  /-- A call is made, and waits for its reply. -/
  | make (inquiry : Inquiry)
  /-- The reply to a call arrives. -/
  | reply (index : Nat) (reply : Reply)
  /-- Someone else changes the session, and leaves the error alone. -/
  | change (edit : Session → Session) (spares : ∀ session, (edit session).system = session.system)

/-- The switchboard after an event. -/
def next (board : Switchboard) : Event → Switchboard
  | .make inquiry => { board with calls := board.calls ++ [some inquiry] }
  | .reply index reply =>
      match board.calls[index]?.join with
      | none => board
      | some inquiry =>
          let (result, session) := Gateway.complete inquiry.endpoint reply board.session
          { session := inquiry.adopt result session
            calls := board.calls.set index none
            returns := board.returns ++ [⟨inquiry, reply, result⟩] }
  | .change edit _ => { board with session := edit board.session }

/-- The switchboard after events one after the other. -/
def run (events : List Event) (board : Switchboard) : Switchboard := events.foldl next board

/-- A session on which no call was made. -/
def start (session : Session) : Switchboard := ⟨session, [], []⟩

/-- The outcome of the call that returned last. -/
def lastOutcome? (board : Switchboard) : Option (Option ApiError) :=
  board.returns.getLast?.map fun last => Gateway.errorOf last.result

end Switchboard

/-! ## What a call returns -/

theorem Api.isSome_readDomain_iff {data : Json} :
    (readDomain data).isSome ↔
      ∃ domain, (data = .string domain ∨ data.member? "domain" = some (.string domain)) ∧
        Text.isAllBlank domain = false := by
  have text (json : Json) (domain : String) : json.text? = some domain ↔ json = .string domain := by
    cases json <;> simp [Json.text?]
  have found : (readDomain data).isSome ↔ ∃ domain,
      (data = .string domain ∨ data.member? "domain" = some (.string domain)) ∧
        (Text.trimmed? domain).isSome := by
    unfold readDomain
    cases data with
    | string own => simp [Json.member?]
    | _ => simp [Json.member?, Option.isSome_bind, Option.any_eq_true, Option.bind_eq_some_iff, text]
  simpa only [Text.isSome_trimmed?_iff] using found

theorem Inquiry.accepts_iff {inquiry : Inquiry} {data : Json} :
    inquiry.Accepts data ↔ ∃ answer, inquiry.endpoint.read data = some answer := by
  cases inquiry with
  | request made => exact iff_of_true trivial ⟨data, rfl⟩
  | setup => exact Iff.rfl
  | call made =>
      cases made with
      | randomDomain =>
          exact Api.isSome_readDomain_iff.symm.trans Option.isSome_iff_exists
      | disableApiKey id => exact iff_of_true trivial ⟨(), rfl⟩
      | disableBlacklist id => exact iff_of_true trivial ⟨(), rfl⟩
      | addBlacklist ip reason => exact iff_of_true trivial ⟨data, rfl⟩
      | _ => exact Iff.rfl

/-- Whether a call returned what its reply calls for. -/
structure Return.IsDue (made : Return) : Prop where
  /-- It succeeded exactly if the reply brought a payload that is an answer. -/
  succeeds_iff : (∃ answer, made.result = .ok answer) ↔
    ∃ data, Brings made.reply data ∧ made.inquiry.Accepts data
  /-- What it returned then is what the payload reads as. -/
  ok_iff : ∀ answer, made.result = .ok answer ↔
    ∃ data, Brings made.reply data ∧ made.inquiry.endpoint.read data = some answer
  /-- Without a response the failure is one of the network. -/
  unanswered : ∀ reason, made.reply = .error reason →
    ∃ error, made.result = .error error ∧ error.status = 0 ∧ error.kind = .network
  /-- A response without a payload is classified by its status. -/
  refused : ∀ response, made.reply = .ok response → (¬ ∃ data, Brings made.reply data) →
    ∃ error, made.result = .error error ∧ error.status = response.status ∧
      error.kind = .ofStatus response.status
  /-- A payload that is no answer is an unknown failure. -/
  unreadable : ∀ data, Brings made.reply data → ¬ made.inquiry.Accepts data →
    ∃ error, made.result = .error error ∧ error.status = 200 ∧ error.kind = .unknown

theorem isDue_outcome (inquiry : Inquiry) (reply : Reply) (apiKeyRequired : Option Bool) :
    Return.IsDue ⟨inquiry, reply, Gateway.outcome inquiry.endpoint apiKeyRequired reply⟩ where
  succeeds_iff := by
    simp only [Gateway.outcome_eq_ok_iff, Inquiry.accepts_iff]
    constructor
    · rintro ⟨answer, data, brings, reads⟩
      exact ⟨data, brings, answer, reads⟩
    · rintro ⟨data, brings, answer, reads⟩
      exact ⟨answer, data, brings, reads⟩
  ok_iff answer := Gateway.outcome_eq_ok_iff
  unanswered reason missing := by
    subst missing
    exact ⟨.noResponse 0, rfl, rfl, rfl⟩
  refused response arrived none := by
    subst arrived
    obtain ⟨message, failed⟩ : ∃ message,
        Gateway.outcome inquiry.endpoint apiKeyRequired (.ok response) =
          .error (.ofStatus response.status inquiry.endpoint.request.path message
            apiKeyRequired) :=
      Gateway.exists_outcome_of_refused none
    obtain ⟨status, kind⟩ := ApiError.ofStatus_spec response.status inquiry.endpoint.request.path
      message apiKeyRequired
    exact ⟨_, failed, status, kind⟩
  unreadable data brings unread := by
    rw [Inquiry.accepts_iff, ← Option.isSome_iff_exists, Bool.not_eq_true,
      Option.isSome_eq_false_iff, Option.isNone_iff_eq_none] at unread
    exact ⟨_, Gateway.outcome_of_unreadable brings unread, rfl, rfl⟩

/-! ## The error on display -/

theorem Inquiry.system_adopt (inquiry : Inquiry) (result : Except ApiError inquiry.Answer)
    (session : Session) : (inquiry.adopt result session).system = session.system := by
  cases inquiry with
  | setup => cases result <;> rfl
  | _ => rfl

namespace Switchboard

/-- The error on display is the outcome of the call that returned last, and every call returned what
its reply called for. -/
structure Sound (initial : Option ApiError) (board : Switchboard) : Prop where
  apiError : board.session.system.apiError = board.lastOutcome?.getD initial
  due : ∀ made ∈ board.returns, made.IsDue

/-- A call that is under way returns when its reply arrives, and its outcome is the error on
display. -/
theorem next_reply {board : Switchboard} {index : Nat} {inquiry : Inquiry}
    (waiting : board.calls[index]? = some (some inquiry)) (reply : Reply) :
    let result := Gateway.outcome inquiry.endpoint (some board.session.runtime.apiKeyRequired) reply
    (board.next (.reply index reply)).returns = board.returns ++ [⟨inquiry, reply, result⟩] ∧
      (board.next (.reply index reply)).session.system.apiError = Gateway.errorOf result := by
  simp only [next, waiting, Option.join_some, Inquiry.system_adopt]
  exact ⟨rfl, rfl⟩

theorem Sound.next {initial : Option ApiError} {board : Switchboard} (sound : Sound initial board)
    (event : Event) : Sound initial (board.next event) := by
  cases event with
  | make inquiry => exact ⟨sound.apiError, sound.due⟩
  | change edit spares =>
      exact ⟨(congrArg SystemModule.apiError (spares board.session)).trans sound.apiError,
        sound.due⟩
  | reply index reply =>
      cases found : board.calls[index]?.join with
      | none =>
          simp only [Switchboard.next, found]
          exact sound
      | some inquiry =>
          obtain ⟨returns, apiError⟩ := next_reply (Option.join_eq_some_iff.mp found) reply
          refine ⟨?_, fun made returned => ?_⟩
          · rw [apiError, lastOutcome?, returns, List.getLast?_concat]
            rfl
          · rw [returns] at returned
            rcases List.mem_append.mp returned with earlier | last
            · exact sound.due made earlier
            · rw [List.mem_singleton.mp last]
              exact isDue_outcome inquiry reply _

theorem Sound.run {initial : Option ApiError} (events : List Event) {board : Switchboard}
    (sound : Sound initial board) : Sound initial (board.run events) := by
  induction events generalizing board with
  | nil => exact sound
  | cons event rest ih => exact ih (sound.next event)

/-- However the calls on a session overlap, the error on display is the outcome of the call that
returned last: none if it succeeded, and its error if it failed.  A call that is under way returns
when its reply arrives.  It succeeds if the reply brings a payload that is an answer, and otherwise
the missing response, the status or the payload decides what the failure is. -/
theorem error_is_last_outcome (session : Session) (events : List Event) :
    let board := (start session).run events
    board.session.system.apiError = board.lastOutcome?.getD session.system.apiError ∧
      (∀ made ∈ board.returns, made.IsDue) ∧
      ∀ index inquiry, board.calls[index]? = some (some inquiry) → ∀ reply,
        ∃ result : Except ApiError inquiry.Answer,
          (board.next (.reply index reply)).returns =
              board.returns ++ [⟨inquiry, reply, result⟩] ∧
            (board.next (.reply index reply)).session.system.apiError =
              Gateway.errorOf result := by
  intro board
  have sound : Sound session.system.apiError board := .run events ⟨rfl, by simp [start]⟩
  exact ⟨sound.apiError, sound.due, fun index inquiry waiting reply =>
    ⟨_, next_reply waiting reply⟩⟩

/-- Two calls overlap, and the later one returns first, with a failure; a success of the earlier one
then takes its error off display, whatever the status of the response. -/
theorem error_of_two_overlapping_calls :
    let inquiry : Inquiry := .call .randomDomain
    let events : List Event :=
      [.make inquiry, .make (.call (.submitDomain "a")), .reply 1 (.ok ⟨401, ""⟩)]
    let reply : Reply := .ok ⟨500, "\x7b\"code\":200,\"data\":\"a.example\"\x7d"⟩
    let board := (start {}).run events
    board.calls[0]? = some (some inquiry) ∧
      board.session.system.apiError.map (·.kind) = some .unauthorized ∧
      (board.next (.reply 0 reply)).session.system.apiError = none := by
  intro inquiry events reply board
  have waiting : board.calls[0]? = some (some inquiry) := rfl
  have failed : (board.lastOutcome?.getD none).map (·.kind) = some ApiErrorKind.unauthorized := by
    decide +kernel
  have succeeds : (board.next (.reply 0 reply)).lastOutcome? = some none := by
    decide +kernel
  obtain ⟨shown, -, answers⟩ := error_is_last_outcome {} events
  obtain ⟨result, returns, error⟩ := answers 0 inquiry waiting reply
  have last : (board.next (.reply 0 reply)).lastOutcome? = some (Gateway.errorOf result) := by
    rw [lastOutcome?, returns, List.getLast?_concat]
    rfl
  refine ⟨waiting, (congrArg (Option.map _) shown).trans failed, ?_⟩
  exact error.trans (Option.some.inj (last.symm.trans succeeds))

end Switchboard
end ProbeWatch
