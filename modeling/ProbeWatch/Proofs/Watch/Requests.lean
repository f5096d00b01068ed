import ProbeWatch.Proofs.Client.Operation
import ProbeWatch.Proofs.Session.Credential
import ProbeWatch.Proofs.Text.Percent
import ProbeWatch.Proofs.Watch.Verdict

/-!
# The requests of a poll

What a poll asks for is settled by the domain that it begins with: neither the replies nor what
others do to the session in the meantime have any say in it.  A poll of a token makes both of its
requests or none, and the token in their paths is ten digits that a path takes as they are.
-/

namespace ProbeWatch

/-! ## Digits in a path -/

namespace Text

/-- The hexadecimal digits in lower case. -/
def lowerHexDigits : List Char := "0123456789abcdef".toList

theorem percentEncode_lowerHexDigit {c : Char} (digit : c ∈ lowerHexDigits) :
    percentEncode [c] = [c] := by
  have each : lowerHexDigits.all
      (fun c => c.toNat < 128 && isUnreserved (UInt8.ofNat c.toNat)) = true := by
    decide
  have known := List.all_eq_true.mp each c digit
  rw [Bool.and_eq_true, decide_eq_true_eq] at known
  exact percentEncode_of_isUnreserved known.1 known.2

theorem toLower_mem_lowerHexDigits {c : Char} (digit : isHexDigit c = true) :
    c.toLower ∈ lowerHexDigits :=
  forall_of_codes (fun c => isHexDigit c = true → c.toLower ∈ lowerHexDigits) (by decide +kernel)
    (Nat.lt_succ_of_le (toNat_of_isHexDigit digit).2) digit

end Text

/-! ## What a poll still asks for -/

namespace Poll

/-- The requests that a poll still makes, whatever the replies to them. -/
def agenda (config : WatchConfig) : Poll → List Request
  | .status token =>
      [(Api.tokenStatus token).request, (Api.tokenRecords token (recordsQuery config)).request]
  | .records token _ => [(Api.tokenRecords token (recordsQuery config)).request]
  | .submission domain => [(Api.submitDomain domain).request]
  | .finished => []

variable {config : WatchConfig} {poll : Poll}

theorem head?_agenda : (poll.agenda config).head? = poll.request? config := by
  cases poll <;> rfl

theorem agenda_receive (reply : Reply) (session : Session) :
    (poll.receive config reply session).1.agenda config = (poll.agenda config).tail := by
  cases poll <;> rfl

theorem agenda_of_waiting {request : Request} (waiting : poll.request? config = some request)
    (reply : Reply) (session : Session) :
    poll.agenda config = request :: (poll.receive config reply session).1.agenda config := by
  rw [← head?_agenda] at waiting
  obtain ⟨later, asked⟩ := List.head?_eq_some_iff.mp waiting
  rw [agenda_receive, asked, List.tail_cons]

end Poll

/-! ## The requests of a course -/

namespace Course

variable {config : WatchConfig}

/-- The requests that a poll has made so far, earliest first: those that got their replies, and the
one that it waits for. -/
def requests (config : WatchConfig) (course : Course) : List Request :=
  course.heard.filterMap (·.poll.request? config) ++ (course.poll.request? config).toList

/-- The requests that a poll has made so far or still makes, earliest first. -/
def planned (config : WatchConfig) (course : Course) : List Request :=
  course.heard.filterMap (·.poll.request? config) ++ course.poll.agenda config

theorem requests_of_rank_eq_zero {course : Course} (ended : course.poll.rank = 0) :
    course.requests config = course.planned config := by
  rw [requests, planned, Poll.eq_finished_of_rank_eq_zero ended]
  rfl

/-- No reply changes what a poll makes of requests altogether, and nothing that others do. -/
theorem planned_hear (course : Course) (arrival : Arrival) :
    (course.hear config arrival).planned config = course.planned config := by
  simp only [planned, hear, List.filterMap_append, List.filterMap_cons, List.filterMap_nil,
    Poll.agenda_receive, List.append_assoc, ← Poll.head?_agenda]
  cases course.poll.agenda config <;> rfl

theorem rank_finish (config : WatchConfig) (arrivals : Nat → Arrival) (course : Course) :
    (course.finish config arrivals).poll.rank = 0 := by
  fun_induction Course.finish config arrivals course with
  | case1 course ended => exact ended
  | case2 course unfinished ih => exact ih

/-- A poll makes the requests that it planned when it began. -/
theorem requests_finish (config : WatchConfig) (arrivals : Nat → Arrival) (course : Course) :
    (course.finish config arrivals).requests config = course.planned config := by
  rw [requests_of_rank_eq_zero (rank_finish config arrivals course)]
  fun_induction Course.finish config arrivals course with
  | case1 course ended => rfl
  | case2 course unfinished ih => rw [ih, planned_hear]

end Course

/-! ## What a client sends -/

namespace Client

/-- Whether a client that goes on with a poll sends the first requests that the poll asks for, with
its credential, and all of them if the poll comes to its end. -/
def SendsOf (client : Client) (agenda : List Request) (after : Bool × Client) : Prop :=
  ∃ made, made <+: agenda ∧
    after.2.sent =
      (made.map (Gateway.authorize client.session.credential)).reverse ++ client.sent ∧
    (after.1 = true → made = agenda)

theorem SendsOf.cons {client next : Client} {request : Request} {agenda : List Request}
    {after : Bool × Client} (later : next.SendsOf agenda after)
    (sent : next.sent = Gateway.authorize client.session.credential request :: client.sent)
    (kept : next.session.credential = client.session.credential) :
    client.SendsOf (request :: agenda) after := by
  obtain ⟨made, front, traffic, whole⟩ := later
  refine ⟨request :: made, List.cons_prefix_cons.mpr ⟨rfl, front⟩, ?_, fun ended => ?_⟩
  · rw [traffic, kept, sent, List.map_cons, List.reverse_cons, List.append_assoc]
    rfl
  · rw [whole ended]

/-- A client goes on with a poll until its end, unless a reply is held back. -/
theorem sendsOf_goOn (client : Client) (watched : Watched) (poll : Poll) :
    client.SendsOf (poll.agenda client.config) (client.goOn watched poll) ∧
      (client.holds = [] → (client.goOn watched poll).1 = true) := by
  induction rank_eq : poll.rank using Nat.strongRecOn generalizing client poll with
  | ind rank ih =>
      cases waits : poll.request? client.config with
      | none =>
          have nothing : poll.agenda client.config = [] := by
            rw [← List.head?_eq_none_iff, Poll.head?_agenda, waits]
          rw [goOn_of_finished waits, nothing]
          exact ⟨⟨[], List.nil_prefix, by cases watched <;> rfl, fun _ => rfl⟩, fun _ => rfl⟩
      | some request =>
          let sent := (client.lift (client.send request)).2
          let reply := (client.lift (client.send request)).1.reply
          let delivered := sent.toExchange.deliver client.config poll request.path reply
          have goes : client.goOn watched poll = sent.answer watched poll request.path reply :=
            goOn_of_waiting waits watched
          have asks : poll.agenda client.config = request :: delivered.1.agenda client.config :=
            Poll.agenda_of_waiting waits _ _
          rw [goes, asks]
          by_cases held : sent.holds.contains request.path = true
          · rw [answer, if_pos held]
            refine ⟨⟨[request], ⟨_, rfl⟩, rfl, nofun⟩, fun free => ?_⟩
            simp [show sent.holds = [] from free] at held
          · rw [answer, if_neg held]
            have nearer : delivered.1.rank < rank := by
              rw [← rank_eq]
              exact Exchange.rank_deliver_lt (Poll.rank_ne_zero_of_request? waits) _ _
            obtain ⟨later, ends⟩ := ih _ nearer (sent.lift delivered).2 delivered.1 rfl
            have kept : delivered.2.session.credential = client.session.credential :=
              (Poll.blind_receive client.config reply poll).credential_eq _
            exact ⟨later.cons rfl kept, ends⟩

theorem sendsOf_poll (client : Client) (watched : Watched) :
    client.SendsOf ((Poll.start watched client.session).1.agenda client.config)
        (client.poll watched) ∧
      (client.holds = [] → (client.poll watched).1 = true) := by
  let begun : Client := { client with session := (Poll.start watched client.session).2 }
  obtain ⟨⟨made, front, traffic, whole⟩, ends⟩ :=
    sendsOf_goOn begun watched (Poll.start watched client.session).1
  have kept : begun.session.credential = client.session.credential :=
    (Poll.blind_start watched).credential_eq client.session
  rw [kept] at traffic
  exact ⟨⟨made, front, traffic, whole⟩, ends⟩

end Client

/-! ## The requests for a token -/

/-- The requests of a poll for this token. -/
def WatchConfig.tokenRequests (config : WatchConfig) (token : String) : List Request :=
  [{ method := .get, path := "/tokens/" ++ token },
    { method := .get
      path := "/tokens/" ++ token ++ "/records"
      query := [("page", "1"), ("pageSize", toString config.pageSize.toNat),
        ("order", config.order.name)] }]

/-- The token of an accepted domain goes into paths as it is. -/
theorem Token.encodeSegment_eq_self {label : List Char}
    (digits : ∀ digit ∈ label, Text.isHexDigit digit = true) :
    Text.encodeSegment (String.ofList (label.map Char.toLower)) =
      String.ofList (label.map Char.toLower) := by
  rw [Text.encodeSegment, String.toList_ofList, Text.percentEncode_eq_self]
  intro c lowered
  obtain ⟨digit, among, rfl⟩ := List.mem_map.mp lowered
  exact Text.percentEncode_lowerHexDigit (Text.toLower_mem_lowerHexDigits (digits digit among))

theorem Poll.agenda_start_token {session : Session} {config : WatchConfig}
    (accepted : Watched.token.Accepts session.text.domain) :
    (Poll.start .token session).1.agenda config =
      config.tokenRequests
        (String.ofList ((Token.label session.text.domain.toList).map Char.toLower)) := by
  have kept := Token.encodeSegment_eq_self accepted.2
  have begun : (Poll.start .token session).1 =
      .status ⟨String.ofList ((Token.label session.text.domain.toList).map Char.toLower)⟩ := by
    rw [Poll.start, Token.parse?, if_pos (Watched.accepts_token_iff.mp accepted)]
    rfl
  have first : toString (1 : UInt32).toNat = "1" := by decide +kernel
  rw [begun, agenda, Api.tokenStatus, Api.tokenRecords, Api.tokenPath, kept, PageQuery.apply,
    recordsQuery, PageQuery.first, first]
  rfl

theorem Poll.agenda_start_of_rejected {session : Session} {config : WatchConfig}
    (rejected : ¬ Watched.token.Accepts session.text.domain) :
    (Poll.start .token session).1.agenda config = [] := by
  rw [Poll.start, Token.parse?, if_neg (mt Watched.accepts_token_iff.mpr rejected)]
  rfl

namespace Client

/-- A poll of a token comes to its end and has then made two requests or none, whatever the replies
to them and whatever others do to the session in the meantime.  It makes them if the domain that it
began with has ten hexadecimal digits in front of its first dot; these are in the paths in lower
case, and need no encoding there.  A client sends just these requests, and all of them unless a
reply is held back. -/
theorem token_polls_request_their_token (client : Client) (arrivals : Nat → Arrival) :
    let domain := client.session.text.domain
    let token := String.ofList ((Token.label domain.toList).map Char.toLower)
    let course := (Course.begin .token client.session).finish client.config arrivals
    let requests := course.requests client.config
    course.poll = .finished ∧
      (Watched.token.Accepts domain →
        (token.length = 10 ∧ ∀ digit ∈ token.toList, digit ∈ Text.lowerHexDigits) ∧
          Text.encodeSegment token = token ∧ requests = client.config.tokenRequests token) ∧
      (¬ Watched.token.Accepts domain → requests = []) ∧
      client.SendsOf requests (client.poll .token) ∧
      (client.holds = [] → (client.poll .token).1 = true) := by
  intro domain token course requests
  have planned : requests = (Poll.start .token client.session).1.agenda client.config :=
    Course.requests_finish client.config arrivals _
  have ended : course.poll.rank = 0 := Course.rank_finish client.config arrivals _
  refine ⟨Poll.eq_finished_of_rank_eq_zero ended, fun accepted => ?_, fun rejected => ?_,
    planned ▸ client.sendsOf_poll .token⟩
  · refine ⟨⟨?_, fun c among => ?_⟩, Token.encodeSegment_eq_self accepted.2,
      planned.trans (Poll.agenda_start_token accepted)⟩
    · rw [← String.length_toList, String.toList_ofList, List.length_map]
      exact accepted.1
    · rw [String.toList_ofList] at among
      obtain ⟨digit, found, rfl⟩ := List.mem_map.mp among
      exact Text.toLower_mem_lowerHexDigits (accepted.2 digit found)
  · exact planned.trans (Poll.agenda_start_of_rejected rejected)

/-- On a new client both requests are made for a token, although the first one gets no response and
the user enters another domain before it fails; and for a domain that would climb out of its path,
none is made. -/
theorem requests_of_entered_domains :
    let arrivals : Nat → Arrival := fun _ => ⟨(·.setDomain "/.."), .error (.timeout "")⟩
    ∃ fresh, start? ⟨[], []⟩ none {} [] .token {} = some fresh ∧
      let visit := fresh.act (.setDomain " A1B2C3D4E5.example")
      let stray := fresh.act (.setDomain "../../keys")
      Watched.token.Accepts " A1B2C3D4E5.example" ∧
        ((Course.begin .token visit.session).finish visit.config arrivals).requests visit.config =
          visit.config.tokenRequests "a1b2c3d4e5" ∧
        ¬ Watched.token.Accepts "../../keys" ∧ stray.holds = [] ∧
        (stray.poll .token).2.sent = [] := by
  intro arrivals
  obtain ⟨fresh, made⟩ : ∃ fresh, start? ⟨[], []⟩ none {} [] .token {} = some fresh := ⟨_, rfl⟩
  obtain ⟨engine, -, rfl⟩ := Option.map_eq_some_iff.mp made
  refine ⟨_, made, ?_⟩
  intro visit stray
  have accepted : Watched.token.Accepts " A1B2C3D4E5.example" :=
    Watched.accepts_token_iff.mpr (by decide +kernel)
  have rejected : ¬ Watched.token.Accepts "../../keys" :=
    mt Watched.accepts_token_iff.mp (by decide +kernel)
  have token : String.ofList
      ((Token.label " A1B2C3D4E5.example".toList).map Char.toLower) = "a1b2c3d4e5" := by
    decide +kernel
  obtain ⟨-, asks, -, -⟩ := token_polls_request_their_token visit arrivals
  obtain ⟨-, -, none, ⟨sent, front, traffic, -⟩, ends⟩ :=
    token_polls_request_their_token stray arrivals
  refine ⟨accepted, ?_, rejected, rfl, ?_⟩
  · exact (asks accepted).2.2.trans (congrArg visit.config.tokenRequests token)
  · rw [none rejected, List.prefix_nil] at front
    rw [traffic, front]
    rfl

end Client
end ProbeWatch
