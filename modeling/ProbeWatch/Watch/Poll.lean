import ProbeWatch.Api
import ProbeWatch.Reconcile

/-!
# Polls

One poll of a watch, from reading the session's domain to writing the results back.  A poll rests
only while it waits for a reply, so polls that overlap are interleaved at these points, and each
writes its outcome in a single change of the session.
-/

namespace ProbeWatch

/-- What a watch polls. -/
inductive Watched
  /-- The lookups of the token that the session's domain starts with. -/
  | token
  /-- The addresses that the session's domain resolves to. -/
  | submission
deriving DecidableEq, Inhabited

/-- The name of a watch. -/
def Watched.name : Watched → String
  | .token => "token-watch"
  | .submission => "submit-watch"

/-- What a poll waits for. -/
inductive Poll
  /-- The status of a token. -/
  | status (token : Token)
  /-- The lookups of a token, its status being known. -/
  | records (token : Token) (status : Except ApiError TokenStatus)
  /-- The addresses of a domain. -/
  | submission (domain : String)
  /-- Nothing; the poll is over. -/
  | finished

namespace Poll

/-- What a person who entered no domain is told. -/
def emptyDomainHint : String := "enter a domain to query"

/-- The page of lookups that a watch asks for. -/
def recordsQuery (config : WatchConfig) : PageQuery :=
  .first config.pageSize config.order

/-- The request whose reply the poll waits for. -/
def request? (config : WatchConfig) : Poll → Option Request
  | .status token => some (Api.tokenStatus token).request
  | .records token _ => some (Api.tokenRecords token (recordsQuery config)).request
  | .submission domain => some (Api.submitDomain domain).request
  | .finished => none

/-- The number of replies that the poll may still wait for. -/
def rank : Poll → Nat
  | .status _ => 2
  | .records .. => 1
  | .submission _ => 1
  | .finished => 0

/-- A poll that waits for a reply is not over. -/
theorem rank_ne_zero_of_request? {config : WatchConfig} {poll : Poll} {request : Request}
    (h : poll.request? config = some request) : poll.rank ≠ 0 := by
  cases poll <;> simp_all [request?, rank]

/-- The results after a domain that does not start with a token. -/
def rejectToken (results : Results) : Results :=
  { results with
    error := Token.hint
    records := []
    recordsTotal := 0
    tokenStatus := none }

/-- The results after a token's status and lookups arrived. -/
def acceptToken (config : WatchConfig) (status : TokenStatus) (page : Page DnsRecord)
    (results : Results) : Results :=
  { results with
    tokenStatus := some status
    records := reconcile results.records page.items config.mode
    recordsTotal := page.total
    error := "" }

/-- The results after a request for a token failed. -/
def failToken (config : WatchConfig) (message : String) (results : Results) : Results :=
  let kept := { results with records := reconcileFailure results.records config.onFailure }
  let kept :=
    if config.onFailure = .clear then { kept with recordsTotal := 0, tokenStatus := none } else kept
  { kept with error := message }

/-- The results after both requests for a token were answered. -/
def concludeToken (config : WatchConfig) (status : Except ApiError TokenStatus)
    (page : Except ApiError (Page DnsRecord)) (results : Results) : Results :=
  match status, page with
  | .ok status, .ok page => acceptToken config status page results
  | .error error, _ => failToken config error.message results
  | .ok _, .error error => failToken config error.message results

/-- The session after a submitted domain was answered. -/
def concludeSubmission (config : WatchConfig) (answer : Except ApiError SubmitResult)
    (session : Session) : Session :=
  match answer with
  | .ok result =>
      let session := if result.domain.isEmpty then session else session.setDomain result.domain
      { session with results :=
          { session.results with
            dnsResults := reconcile session.results.dnsResults result.results config.mode
            error := "" } }
  | .error error =>
      { session with results :=
          { session.results with
            dnsResults := reconcileFailure session.results.dnsResults config.onFailure
            error := error.message } }

/-- Begins a poll: reads the domain, and rejects one that cannot be polled. -/
def start (watched : Watched) (session : Session) : Poll × Session :=
  match watched with
  | .token =>
      match Token.parse? session.text.domain with
      | some token => (.status token, session)
      | none => (.finished, { session with results := rejectToken session.results })
  | .submission =>
      match Text.trimmed? session.text.domain with
      | some domain => (.submission domain, session)
      | none =>
          (.finished, { session with results := { session.results with error := emptyDomainHint } })

/-- Goes on with a poll once the reply that it waited for has arrived. -/
def receive (config : WatchConfig) (reply : Reply) (session : Session) : Poll → Poll × Session
  | .status token =>
      let (answer, session) := Gateway.complete (Api.tokenStatus token) reply session
      (.records token answer, session)
  | .records token known =>
      let (page, session) :=
        Gateway.complete (Api.tokenRecords token (recordsQuery config)) reply session
      (.finished, { session with results := concludeToken config known page session.results })
  | .submission domain =>
      let (answer, session) := Gateway.complete (Api.submitDomain domain) reply session
      (.finished, concludeSubmission config answer session)
  | .finished => (.finished, session)

/-- What is said about a token once both requests for it were answered. -/
def tokenLines (token : Token) (status : Except ApiError TokenStatus)
    (page : Except ApiError (Page DnsRecord)) : List LogLine :=
  match status, page with
  | .ok status, .ok page =>
      [.debug .watch ("Token " ++ token.text ++ ": status=" ++ status.status.shown ++ " hits=" ++
        toString status.hitCount.toInt ++ " records=" ++ toString page.items.length)]
  | _, _ => []

/-- What is said when the reply arrives that the poll waited for: about its payload, if it cannot be
read, and about a token of which everything is known then. -/
def replyLines (config : WatchConfig) (words : Json → String) (apiKeyRequired : Option Bool)
    (reply : Reply) : Poll → List LogLine
  | .status token => Gateway.payloadLines words (Api.tokenStatus token) apiKeyRequired reply
  | .records token known =>
      let endpoint := Api.tokenRecords token (recordsQuery config)
      Gateway.payloadLines words endpoint apiKeyRequired reply ++
        tokenLines token known (Gateway.outcome endpoint apiKeyRequired reply)
  | .submission domain => Gateway.payloadLines words (Api.submitDomain domain) apiKeyRequired reply
  | .finished => []

/-- Every reply brings a poll nearer to its end. -/
theorem rank_receive_lt (config : WatchConfig) (reply : Reply) (session : Session) (poll : Poll)
    (waiting : poll.rank ≠ 0) : (receive config reply session poll).1.rank < poll.rank := by
  cases poll <;> simp_all [receive, rank]

end Poll
end ProbeWatch
