import ProbeWatch.Proofs.Client.Operation
import ProbeWatch.Proofs.Credential.Store
import ProbeWatch.Proofs.Session.Credential

/-!
# Guises

An operation comes to the same whatever credential the client uses, but for the credential itself,
the header on what is sent, and the log.  These make up the guise of a client; an operation on a
client in another guise is the same operation seen in another guise.
-/

namespace ProbeWatch

/-! ## Exchanges -/

namespace Exchange

/-- The traces that a credential leaves in an exchange. -/
structure Guise where
  credential : Credential
  sent : List Request
  log : List LogLine

/-- The guise that an exchange is in. -/
def guise (exchange : Exchange) : Guise :=
  ⟨exchange.session.credential, exchange.sent, exchange.log⟩

/-- The guise after requests were sent with its credential, latest first. -/
def Guise.after (guise : Guise) (requests : List Request) (log : List LogLine) : Guise :=
  { guise with sent := requests.map (Gateway.authorize guise.credential) ++ guise.sent, log }

theorem Guise.after_after (guise : Guise) (requests more : List Request) (log log' : List LogLine) :
    (guise.after requests log).after more log' = guise.after (more ++ requests) log' := by
  simp [after]

/-- The exchange in another guise. -/
def inGuise (exchange : Exchange) (guise : Guise) : Exchange where
  session := exchange.session.withCredential guise.credential
  script := exchange.script
  sent := guise.sent
  log := guise.log
  words := exchange.words

@[simp]
theorem session_inGuise (exchange : Exchange) (guise : Guise) :
    (exchange.inGuise guise).session = exchange.session.withCredential guise.credential :=
  rfl

theorem say_inGuise (exchange : Exchange) (guise : Guise) (lines : List LogLine) :
    (exchange.inGuise guise).say lines =
      (exchange.say lines).inGuise { guise with log := lines.reverse ++ guise.log } :=
  rfl

/-- Whether something done to an exchange comes to the same in every guise, and sends these
requests, latest first. -/
def Sends {α : Type} (act : Exchange → α × Exchange) (exchange : Exchange)
    (requests : List Request) : Prop :=
  ∀ guise, ∃ log, act (exchange.inGuise guise) =
    ((act exchange).1, (act exchange).2.inGuise (guise.after requests log))

theorem sends_send (exchange : Exchange) (request : Request) :
    exchange.Sends (send · request) [request] :=
  fun _ => ⟨_, rfl⟩

theorem sends_perform {α : Type} (exchange : Exchange) (endpoint : Endpoint α) :
    exchange.Sends (perform · endpoint) [endpoint.request] :=
  fun _ => ⟨_, rfl⟩

theorem sends_loadRuntimeConfig (exchange : Exchange) :
    exchange.Sends loadRuntimeConfig [Api.runtimeConfig.request] := by
  intro guise
  obtain ⟨log, same⟩ := sends_perform exchange Api.runtimeConfig guise
  refine ⟨Api.setupLine (exchange.perform Api.runtimeConfig).1 :: log, ?_⟩
  simp only [loadRuntimeConfig, same, say_inGuise, session_inGuise,
    Api.adoptRuntimeConfig_withCredential]
  rfl

theorem sends_deliver (config : WatchConfig) (exchange : Exchange) (poll : Poll) (path : String)
    (reply : Reply) : exchange.Sends (deliver config · poll path reply) [] := by
  intro guise
  have received := poll.blind_receive config reply exchange.session guise.credential
  dsimp only at received
  let required := some exchange.session.runtime.apiKeyRequired
  refine ⟨(((exchange.inGuise guise).noteReply path reply).say
    (poll.replyLines config exchange.words required reply)).log, ?_⟩
  simp only [deliver, noteReply, say, session_inGuise, received]
  rfl

end Exchange

/-! ## Clients -/

namespace Client

open Exchange (Guise)

/-- The client in another guise and another environment. -/
def inGuise (client : Client) (guise : Guise) (environment : Option String) : Client :=
  { client with toExchange := client.toExchange.inGuise guise, environment }

@[simp]
theorem session_inGuise (client : Client) (guise : Guise) (environment : Option String) :
    (client.inGuise guise environment).session = client.session.withCredential guise.credential :=
  rfl

/-- Whether something done to a client comes to the same in every guise and environment, and sends
these requests, latest first. -/
def Sends {α : Type} (act : Client → α × Client) (client : Client)
    (requests : List Request) : Prop :=
  ∀ guise environment, ∃ log, act (client.inGuise guise environment) =
    ((act client).1, (act client).2.inGuise (guise.after requests log) environment)

theorem sends_lift {α : Type} {act : Exchange → α × Exchange} {client : Client}
    {requests : List Request} (sends : client.toExchange.Sends act requests) :
    client.Sends (fun client => client.lift (act client.toExchange)) requests := by
  intro guise environment
  obtain ⟨log, same⟩ := sends guise
  refine ⟨log, ?_⟩
  change lift _ (act (client.toExchange.inGuise guise)) = _
  rw [same]
  rfl

theorem Sends.bind {α β : Type} {act : Client → α × Client} {client : Client}
    {requests more : List Request} (first : client.Sends act requests)
    {next : α → Client → β × Client} (second : (act client).2.Sends (next (act client).1) more) :
    client.Sends (fun client => next (act client).1 (act client).2) (more ++ requests) := by
  intro guise environment
  obtain ⟨log, same⟩ := first guise environment
  obtain ⟨log', same'⟩ := second (guise.after requests log) environment
  refine ⟨log', ?_⟩
  simp only [same, same', Guise.after_after]

/-- Whether something done to a client comes to the same in every guise, and sends no headers but
that of the credential. -/
def SendsBare {α : Type} (act : Client → α × Client) (client : Client) : Prop :=
  ∃ requests : List Request, (∀ request ∈ requests, request.headers = []) ∧
    client.Sends act requests

theorem sendsBare_of_silent {α : Type} {act : Client → α × Client} {client : Client}
    (silent : ∀ guise environment, act (client.inGuise guise environment) =
      ((act client).1, (act client).2.inGuise guise environment)) :
    client.SendsBare act :=
  ⟨[], by simp, fun guise environment => ⟨guise.log, silent guise environment⟩⟩

theorem SendsBare.bind {α β : Type} {act : Client → α × Client} {client : Client}
    (first : client.SendsBare act) (next : α → Client → β × Client)
    (second : (act client).2.SendsBare (next (act client).1)) :
    client.SendsBare fun client => next (act client).1 (act client).2 := by
  obtain ⟨requests, bare, sends⟩ := first
  obtain ⟨more, bare', sends'⟩ := second
  refine ⟨more ++ requests, fun request found => ?_, sends.bind sends'⟩
  exact (List.mem_append.mp found).elim (bare' request) (bare request)

theorem sendsBare_resume {client : Client} {watched : Watched} {poll : Poll} {path : String}
    {reply : Reply}
    (later : ∀ other : Client, other.SendsBare
      (goOn · watched (client.toExchange.deliver client.config poll path reply).1)) :
    client.SendsBare (resume watched poll path reply) := by
  have sends := Exchange.sends_deliver client.config client.toExchange poll path reply
  have delivered : client.SendsBare fun other =>
      other.lift (other.toExchange.deliver client.config poll path reply) :=
    ⟨[], by simp, sends_lift sends⟩
  -- The settings are those of the client in every guise, so `resume` is what follows here.
  obtain ⟨requests, bare, sends⟩ :=
    delivered.bind (fun poll other => other.goOn watched poll) (later _)
  exact ⟨requests, bare, fun guise environment => sends guise environment⟩

theorem sendsBare_answer {client : Client} {watched : Watched} {poll : Poll} {path : String}
    {reply : Reply} (resumed : client.SendsBare (resume watched poll path reply)) :
    client.SendsBare (answer watched poll path reply) := by
  by_cases held : client.holds.contains path = true
  · refine sendsBare_of_silent fun guise environment => ?_
    have held' : (client.inGuise guise environment).holds.contains path = true := held
    rw [answer, answer, if_pos held, if_pos held']
    rfl
  · obtain ⟨requests, bare, sends⟩ := resumed
    refine ⟨requests, bare, fun guise environment => ?_⟩
    have held' : ¬(client.inGuise guise environment).holds.contains path = true := held
    rw [answer, answer, if_neg held, if_neg held']
    exact sends guise environment

theorem sendsBare_goOn (client : Client) (watched : Watched) (poll : Poll) :
    client.SendsBare (goOn · watched poll) := by
  induction rank_eq : poll.rank using Nat.strongRecOn generalizing client poll with
  | ind rank ih =>
      cases waits : poll.request? client.config with
      | none =>
          refine sendsBare_of_silent fun guise environment => ?_
          have waits' : poll.request? (client.inGuise guise environment).config = none := waits
          rw [goOn_of_finished waits, goOn_of_finished waits']
          cases watched <;> rfl
      | some request =>
          have sent : client.SendsBare fun other => other.lift (other.send request) :=
            ⟨[request], by simpa using Poll.headers_of_request? waits,
              sends_lift (Exchange.sends_send client.toExchange request)⟩
          have closer (exchange : Exchange) (reply : Reply) :
              (exchange.deliver client.config poll request.path reply).1.rank < rank := by
            rw [← rank_eq]
            exact Exchange.rank_deliver_lt (Poll.rank_ne_zero_of_request? waits) _ _
          obtain ⟨requests, bare, sends⟩ :=
            sent.bind (fun scripted other => other.answer watched poll request.path scripted.reply)
              (sendsBare_answer (sendsBare_resume fun other => ih _ (closer _ _) other _ rfl))
          refine ⟨requests, bare, fun guise environment => ?_⟩
          have waits' : poll.request? (client.inGuise guise environment).config = some request :=
            waits
          dsimp only
          rw [goOn_of_waiting waits, goOn_of_waiting waits']
          exact sends guise environment

theorem sendsBare_change {α : Type} {change : Session → α × Session} (blind : Session.Blind change)
    (client : Client) :
    client.SendsBare fun other =>
      ((change other.session).1, { other with session := (change other.session).2 }) := by
  refine sendsBare_of_silent fun guise environment => ?_
  simp only [session_inGuise, blind client.session guise.credential]
  rfl

theorem sendsBare_poll (client : Client) (watched : Watched) :
    client.SendsBare (poll · watched) :=
  (sendsBare_change (Poll.blind_start watched) client).bind
    (fun poll other => other.goOn watched poll) (sendsBare_goOn _ watched _)

theorem sendsBare_release (client : Client) (path : String) (arrival : Nat) :
    client.SendsBare (release · path arrival) := by
  cases found : client.waiting.find? fun held => held.path == path && held.arrival == arrival with
  | none =>
      refine sendsBare_of_silent fun guise environment => ?_
      have found' : (client.inGuise guise environment).waiting.find?
          (fun held => held.path == path && held.arrival == arrival) = none := found
      simp only [release_eq, found, found']
  | some held =>
      let isMeant (held : HeldPoll) : Bool := held.path == path && held.arrival == arrival
      let rest : Client := { client with waiting := client.waiting.filter (!isMeant ·) }
      have resumed : rest.SendsBare (resume held.watched held.poll held.path held.reply) :=
        sendsBare_resume fun other => sendsBare_goOn other _ _
      obtain ⟨requests, bare, sends⟩ := resumed
      refine ⟨requests, bare, fun guise environment => ?_⟩
      obtain ⟨log, same⟩ := sends guise environment
      have found' : (client.inGuise guise environment).waiting.find?
          (fun held => held.path == path && held.arrival == arrival) = some held := found
      refine ⟨log, ?_⟩
      simp only [release_eq, found, found']
      exact congrArg (fun outcome => (true, outcome.2)) same

/-! ## Operations -/

/-- Whether something done to a client comes to the same in every guise and environment but for the
credential that it leaves in effect, and sends these requests, latest first, with the one before. -/
def Conducts (act : Client → Client) (client : Client) (requests : List Request) : Prop :=
  ∀ guise environment, ∃ credential log,
    (guise.credential.WellFormed → credential.WellFormed) ∧
      act (client.inGuise guise environment) =
        (act client).inGuise { guise.after requests log with credential } environment

theorem Sends.conducts {α : Type} {act : Client → α × Client} {client : Client}
    {requests : List Request} (sends : client.Sends act requests) :
    client.Conducts (fun client => (act client).2) requests := by
  intro guise environment
  obtain ⟨log, same⟩ := sends guise environment
  exact ⟨guise.credential, log, id, congrArg Prod.snd same⟩

theorem conducts_runCredential {call : CredentialStore.Call} (carried : call.WellFormed)
    (client : Client) : client.Conducts (fun client => (client.runCredential call).2) [] := by
  intro guise environment
  let desk (credential : Credential) : CredentialStore.Desk MemoryStore :=
    ⟨client.store, credential, []⟩
  let after := (CredentialStore.run environment call (desk guise.credential)).2
  have stored : after.storage =
      (CredentialStore.run client.environment call (desk client.session.credential)).2.storage :=
    CredentialStore.storage_run client.environment environment call rfl
  refine ⟨after.published, after.log.reverse ++ guise.log,
    fun inEffect => CredentialStore.wellFormed_run environment inEffect carried, ?_⟩
  have used : ((client.inGuise guise environment).runCredential call).2 =
      { client with
        toExchange := client.toExchange.inGuise
          ⟨after.published, guise.sent, after.log.reverse ++ guise.log⟩
        environment
        store := after.storage } :=
    rfl
  dsimp only
  rw [used, stored]
  rfl

theorem conducts_setKey (client : Client) (raw : String) :
    client.Conducts (fun client => (client.setKey raw).2) [] := by
  intro guise environment
  cases entered : CredentialStore.set raw with
  | mk call lines =>
      simp only [setKey, entered]
      exact conducts_runCredential (CredentialStore.wellFormed_of_set entered) (client.say lines)
        { guise with log := lines.reverse ++ guise.log } environment

theorem conducts_restore (client : Client) :
    client.Conducts (fun client => client.restore.2) [] := by
  intro guise environment
  refine ⟨guise.credential, guise.log, id, ?_⟩
  have same : Snapshot.restore (client.inGuise guise environment).store
      (client.inGuise guise environment).session = _ :=
    Snapshot.restore_withCredential client.store client.session guise.credential
  dsimp only [restore]
  rw [same]
  cases Snapshot.restore client.store client.session <;> rfl

theorem conducts_replace {session : Session} (absent : session.credential = .absent)
    (client : Client) : client.Conducts (fun client => { client with session }) [] := by
  intro guise environment
  refine ⟨.absent, guise.log, fun _ => Credential.wellFormed_absent, ?_⟩
  rw [← absent]
  rfl

/-- Which requests an operation may make, latest first. -/
def Operation.Permits : Operation → List Request → Prop
  | .call made, requests => requests = [made.endpoint.request]
  | .request made, requests => requests = [made]
  | _, requests => ∀ request ∈ requests, request.headers = []

/-- What every operation does: it comes to the same in every guise and environment, makes requests
with the credential in effect, and leaves a well-formed credential behind if it found one. -/
theorem exists_conducts (client : Client) (operation : Operation) :
    ∃ requests, operation.Permits requests ∧ client.Conducts (act · operation) requests := by
  have bare {α : Type} {act : Client → α × Client} (sends : client.SendsBare act) :
      ∃ requests : List Request, (∀ request ∈ requests, request.headers = []) ∧
        client.Conducts (fun client => (act client).2) requests := by
    obtain ⟨requests, bare, sends⟩ := sends
    exact ⟨requests, bare, sends.conducts⟩
  have silent : ∀ request ∈ ([] : List Request), request.headers = [] := by simp
  cases operation with
  | resolve => exact ⟨[], silent, conducts_runCredential CredentialStore.wellFormed_resolve client⟩
  | set raw => exact ⟨[], silent, conducts_setKey client raw⟩
  | clear => exact ⟨[], silent, conducts_runCredential CredentialStore.wellFormed_clear client⟩
  | restore => exact ⟨[], silent, conducts_restore client⟩
  | restoreOrDefaults =>
      have absent := Snapshot.credential_restoreOrDefaults client.store {}
      exact ⟨[], silent, conducts_replace absent client⟩
  | replace tree =>
      refine ⟨[], silent, ?_⟩
      cases reads : Session.ofJson? tree with
      | none =>
          simp only [act, reads]
          exact fun guise environment => ⟨guise.credential, guise.log, id, rfl⟩
      | some session =>
          simp only [act, reads]
          exact conducts_replace (Session.credential_of_ofJson? reads) client
  | call made =>
      have sends := Exchange.sends_perform client.toExchange made.endpoint
      exact ⟨_, rfl, (sends_lift sends).conducts⟩
  | request made =>
      have sends := Exchange.sends_perform client.toExchange (Api.raw made)
      exact ⟨_, rfl, (sends_lift sends).conducts⟩
  | loadRuntimeConfig =>
      have sends := Exchange.sends_loadRuntimeConfig client.toExchange
      exact bare ⟨_, by simp [Api.runtimeConfig], sends_lift sends⟩
  | poll watched => exact bare (sendsBare_poll client watched)
  | release path arrival => exact bare (sendsBare_release client path arrival)
  | _ => exact ⟨[], silent, fun guise environment => ⟨guise.credential, guise.log, id, rfl⟩⟩

end Client
end ProbeWatch
