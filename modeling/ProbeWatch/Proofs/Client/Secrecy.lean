import Mathlib.Data.List.Forall2
import ProbeWatch.Proofs.Client.Guise
import ProbeWatch.Proofs.Credential.Rekeying
import ProbeWatch.Proofs.Engine.Operation

/-!
# What the log gives away

Two clients that differ in their keys alone, each key having the same first six characters as the
one in its place, say the same whatever is done to them, and describe their credentials alike.
-/

namespace ProbeWatch

theorem Gateway.sendLine_eq {left right : Credential} (rekeyed : left.Rekeyed right)
    (transport : String) (request : Request) :
    sendLine transport right request = sendLine transport left request := by
  rw [sendLine, sendLine, rekeyed.shown_eq, rekeyed.isEmpty_eq]

/-! ## Exchanges -/

namespace Exchange

/-- Whether two exchanges are the same but for keys, which the log does not tell apart, and for the
requests that were sent. -/
def Rekeyed (left right : Exchange) : Prop :=
  ∃ guise, right = left.inGuise guise ∧ left.session.credential.Rekeyed guise.credential ∧
    guise.log = left.log

/-- Whether something done to exchanges comes to the same whatever their keys are. -/
def Conceals {α : Type} (act : Exchange → α × Exchange) : Prop :=
  ∀ ⦃left right : Exchange⦄, left.Rekeyed right →
    (act right).1 = (act left).1 ∧ (act left).2.Rekeyed (act right).2

variable {left right : Exchange}

theorem Rekeyed.say (rekeyed : left.Rekeyed right) (lines : List LogLine) :
    (left.say lines).Rekeyed (right.say lines) := by
  obtain ⟨guise, rfl, credential, log⟩ := rekeyed
  exact ⟨{ guise with log := lines.reverse ++ guise.log }, rfl, credential,
    congrArg (lines.reverse ++ ·) log⟩

/-- Nothing is said about a reply but what the decoder and the backend's setup make of it. -/
theorem Rekeyed.remark (rekeyed : left.Rekeyed right)
    (lines : (Json → String) → Option Bool → List LogLine) :
    (left.say (lines left.words (some left.session.runtime.apiKeyRequired))).Rekeyed
      (right.say (lines right.words (some right.session.runtime.apiKeyRequired))) := by
  have said := rekeyed.say (lines left.words (some left.session.runtime.apiKeyRequired))
  obtain ⟨guise, rfl, -⟩ := rekeyed
  exact said

theorem Rekeyed.noteReply (rekeyed : left.Rekeyed right) (path : String) (reply : Reply) :
    (left.noteReply path reply).Rekeyed (right.noteReply path reply) :=
  rekeyed.remark fun _ required => Gateway.failureLines path required reply

theorem conceals_change {α : Type} {change : Session → α × Session}
    (blind : Session.Blind change) :
    Conceals fun exchange =>
      ((change exchange.session).1, { exchange with session := (change exchange.session).2 }) := by
  rintro left _ ⟨guise, rfl, credential, log⟩
  have changed := blind left.session guise.credential
  dsimp only
  rw [session_inGuise, changed]
  exact ⟨rfl, guise, rfl, by rwa [blind.credential_eq], log⟩

theorem conceals_send (request : Request) : Conceals (send · request) := by
  rintro left _ ⟨guise, rfl, credential, log⟩
  refine ⟨rfl, ((left.inGuise guise).send request).2.guise, rfl, credential, ?_⟩
  exact congrArg₂ List.cons (Gateway.sendLine_eq credential _ request) log

theorem conceals_perform {α : Type} (endpoint : Endpoint α) : Conceals (perform · endpoint) := by
  intro left right rekeyed
  obtain ⟨same, sent⟩ := conceals_send endpoint.request rekeyed
  simp only [perform, same]
  refine conceals_change (Gateway.blind_complete endpoint _) ?_
  exact (sent.noteReply _ _).remark fun words required =>
    Gateway.payloadLines words endpoint required (left.send endpoint.request).1.reply

theorem conceals_loadRuntimeConfig : Conceals loadRuntimeConfig := by
  intro left right rekeyed
  obtain ⟨same, performed⟩ := conceals_perform Api.runtimeConfig rekeyed
  have blind (result : Except ApiError RuntimeConfig) : Session.Blind fun session =>
      ((Api.adoptRuntimeConfig result session).runtime, Api.adoptRuntimeConfig result session) := by
    intro session credential
    simp only [Api.adoptRuntimeConfig_withCredential]
    rfl
  simp only [loadRuntimeConfig, same]
  exact conceals_change (blind _) (performed.say _)

theorem conceals_deliver (config : WatchConfig) (poll : Poll) (path : String) (reply : Reply) :
    Conceals (deliver config · poll path reply) :=
  fun _ _ rekeyed =>
    conceals_change (poll.blind_receive config reply)
      ((rekeyed.noteReply path reply).remark fun words required =>
        poll.replyLines config words required reply)

end Exchange

/-! ## Clients -/

namespace Client

/-- The client with everything in which there may be keys taken from elsewhere. -/
def withKeys (client : Client) (exchange : Exchange) (store : MemoryStore)
    (environment : Option String) : Client :=
  { client with toExchange := exchange, store, environment }

/-- Whether two clients are the same but for keys, which the log does not tell apart, and for the
requests that were sent. -/
def Rekeyed (left right : Client) : Prop :=
  ∃ exchange store environment,
    right = left.withKeys exchange store environment ∧ left.toExchange.Rekeyed exchange ∧
      left.store.Rekeyed store ∧ Option.Rel RekeyedText left.environment environment

variable {left right : Client}

theorem Rekeyed.config_eq (rekeyed : left.Rekeyed right) : right.config = left.config := by
  obtain ⟨exchange, store, environment, rfl, -⟩ := rekeyed
  rfl

theorem Rekeyed.holds_eq (rekeyed : left.Rekeyed right) : right.holds = left.holds := by
  obtain ⟨exchange, store, environment, rfl, -⟩ := rekeyed
  rfl

theorem Rekeyed.waiting_eq (rekeyed : left.Rekeyed right) : right.waiting = left.waiting := by
  obtain ⟨exchange, store, environment, rfl, -⟩ := rekeyed
  rfl

theorem Rekeyed.polled_eq (rekeyed : left.Rekeyed right) : right.polled = left.polled := by
  obtain ⟨exchange, store, environment, rfl, -⟩ := rekeyed
  rfl

theorem Rekeyed.engine_eq (rekeyed : left.Rekeyed right) : right.engine = left.engine := by
  obtain ⟨exchange, store, environment, rfl, -⟩ := rekeyed
  rfl

theorem Rekeyed.say (rekeyed : left.Rekeyed right) (lines : List LogLine) :
    (left.say lines).Rekeyed (right.say lines) := by
  obtain ⟨exchange, store, environment, rfl, same, kept⟩ := rekeyed
  exact ⟨exchange.say lines, store, environment, rfl, same.say lines, kept⟩

theorem Rekeyed.revise (rekeyed : left.Rekeyed right) (watched : Watched) :
    (left.revise watched).Rekeyed (right.revise watched) := by
  obtain ⟨exchange, store, environment, rfl, same⟩ := rekeyed
  cases watched <;> exact ⟨exchange, store, environment, rfl, same⟩

theorem Rekeyed.park (rekeyed : left.Rekeyed right) (watched : Watched) (poll : Poll)
    (path : String) (reply : Reply) :
    (left.park watched poll path reply).Rekeyed (right.park watched poll path reply) := by
  obtain ⟨exchange, store, environment, rfl, same⟩ := rekeyed
  exact ⟨exchange, store, environment, rfl, same⟩

/-- Whether something done to clients comes to the same whatever their keys are. -/
def Conceals {α : Type} (act : Client → α × Client) : Prop :=
  ∀ ⦃left right : Client⦄, left.Rekeyed right →
    (act right).1 = (act left).1 ∧ (act left).2.Rekeyed (act right).2

theorem conceals_lift {α : Type} {act : Exchange → α × Exchange}
    (conceals : Exchange.Conceals act) :
    Conceals fun client => client.lift (act client.toExchange) := by
  rintro left _ ⟨exchange, store, environment, rfl, same, stored, supplied⟩
  obtain ⟨result, after⟩ := conceals same
  exact ⟨result, _, store, environment, rfl, after, stored, supplied⟩

theorem Conceals.bind {α β : Type} {act : Client → α × Client} {next : α → Client → β × Client}
    (first : Conceals act) (second : ∀ result, Conceals (next result)) :
    Conceals fun client => next (act client).1 (act client).2 := by
  intro left right rekeyed
  obtain ⟨same, after⟩ := first rekeyed
  simp only [same]
  exact second _ after

theorem conceals_resume {watched : Watched} {poll : Poll} {path : String} {reply : Reply}
    (later : ∀ config exchange, Conceals
      (goOn · watched (Exchange.deliver config exchange poll path reply).1)) :
    Conceals (resume watched poll path reply) := by
  intro left right rekeyed
  obtain ⟨same, after⟩ :=
    conceals_lift (Exchange.conceals_deliver left.config poll path reply) rekeyed
  have followed := later left.config left.toExchange after
  dsimp only at same
  simp only [resume, rekeyed.config_eq, same]
  exact followed

theorem conceals_answer {watched : Watched} {poll : Poll} {path : String} {reply : Reply}
    (resumed : Conceals (resume watched poll path reply)) :
    Conceals (answer watched poll path reply) := by
  intro left right rekeyed
  rw [answer, answer, rekeyed.holds_eq]
  split
  · exact ⟨rfl, rekeyed.park watched poll path reply⟩
  · exact resumed rekeyed

theorem conceals_goOn (watched : Watched) (poll : Poll) : Conceals (goOn · watched poll) := by
  induction rank_eq : poll.rank using Nat.strongRecOn generalizing poll with
  | ind rank ih =>
      intro left right rekeyed
      cases waits : poll.request? left.config with
      | none =>
          have waits' : poll.request? right.config = none := rekeyed.config_eq ▸ waits
          simp only [goOn_of_finished waits, goOn_of_finished waits']
          exact ⟨trivial, rekeyed.revise watched⟩
      | some request =>
          have waits' : poll.request? right.config = some request := rekeyed.config_eq ▸ waits
          have resumed (reply : Reply) : Conceals (resume watched poll request.path reply) := by
            refine conceals_resume fun config exchange => ih _ ?_ _ rfl
            rw [← rank_eq]
            exact Exchange.rank_deliver_lt (Poll.rank_ne_zero_of_request? waits) _ _
          have answered := (conceals_lift (Exchange.conceals_send request)).bind
            fun scripted => conceals_answer (resumed scripted.reply)
          simp only [goOn_of_waiting waits, goOn_of_waiting waits']
          exact answered rekeyed

theorem conceals_poll (watched : Watched) : Conceals (poll · watched) :=
  (conceals_lift (Exchange.conceals_change (Poll.blind_start watched))).bind
    fun poll => conceals_goOn watched poll

theorem Rekeyed.withWaiting (rekeyed : left.Rekeyed right) (waiting : List HeldPoll) :
    Rekeyed { left with waiting } { right with waiting } := by
  obtain ⟨exchange, store, environment, rfl, same⟩ := rekeyed
  exact ⟨exchange, store, environment, rfl, same⟩

theorem conceals_release (path : String) (arrival : Nat) : Conceals (release · path arrival) := by
  intro left right rekeyed
  have followed (held : HeldPoll) :
      Conceals (resume held.watched held.poll held.path held.reply) :=
    conceals_resume fun _ _ => conceals_goOn held.watched _
  simp only [release_eq, rekeyed.waiting_eq]
  split
  · exact ⟨rfl, rekeyed⟩
  · exact ⟨rfl, (followed _ (rekeyed.withWaiting _)).2⟩

/-! ## Credentials and storage -/

theorem Rekeyed.runCredential (rekeyed : left.Rekeyed right) {call other : CredentialStore.Call}
    (alike : call.Rekeyed other) :
    (left.runCredential call).1.Rekeyed (right.runCredential other).1 ∧
      (left.runCredential call).2.Rekeyed (right.runCredential other).2 := by
  obtain ⟨_, store, environment, rfl, ⟨guise, rfl, credential, log⟩, stored, supplied⟩ := rekeyed
  let desk : CredentialStore.Desk MemoryStore := ⟨left.store, left.session.credential, []⟩
  let otherDesk : CredentialStore.Desk MemoryStore := ⟨store, guise.credential, []⟩
  have begun : desk.Rekeyed otherDesk := ⟨stored, credential, rfl⟩
  obtain ⟨returned, after⟩ := CredentialStore.run_rekeyed supplied begun alike
  let last := (CredentialStore.run environment other otherDesk).2
  have said : last.log.reverse ++ guise.log =
      (CredentialStore.run left.environment call desk).2.log.reverse ++ left.log := by
    rw [after.log, log]
  exact ⟨returned, _, last.storage, environment, rfl,
    ⟨⟨last.published, guise.sent, last.log.reverse ++ guise.log⟩, rfl, after.published, said⟩,
    after.storage, supplied⟩

theorem Rekeyed.setKey (rekeyed : left.Rekeyed right) {raw other : String}
    (alike : RekeyedText raw other) :
    (left.setKey raw).1.Rekeyed (right.setKey other).1 ∧
      (left.setKey raw).2.Rekeyed (right.setKey other).2 := by
  obtain ⟨calls, said⟩ := CredentialStore.set_rekeyed alike
  simp only [Client.setKey, said]
  exact (rekeyed.say _).runCredential calls

theorem Rekeyed.snapshot (rekeyed : left.Rekeyed right) :
    left.snapshot.2.Rekeyed right.snapshot.2 := by
  obtain ⟨_, store, environment, rfl, ⟨guise, rfl, same⟩, stored, supplied⟩ := rekeyed
  suffices written : (Snapshot.write left.store left.session).1.Rekeyed
      (Snapshot.write store left.session).1 from
    ⟨_, _, environment, rfl, ⟨guise, rfl, same⟩, written, supplied⟩
  obtain ⟨outcome, after⟩ := stored.set Snapshot.key (.refl (Snapshot.text left.session))
  simp only [Snapshot.write]
  generalize KeyValueStore.set left.store Snapshot.key (Snapshot.text left.session) = one
    at outcome after ⊢
  generalize KeyValueStore.set store Snapshot.key (Snapshot.text left.session) = two
    at outcome after ⊢
  obtain ⟨kept, result⟩ := one
  obtain ⟨otherKept, otherResult⟩ := two
  subst outcome
  cases otherResult with
  | error failure => exact after
  | ok done => exact after.flush

/-! ## Operations -/

/-- Whether two operations are the same but for keys in what is entered or put into storage, and
restore nothing. -/
inductive Operation.Rekeyed : Operation → Operation → Prop
  -- A text that is restored becomes a session, and a key in it may then show as a domain.
  | same {operation : Operation} (apart : operation ≠ .restore)
      (apartToo : operation ≠ .restoreOrDefaults) : Rekeyed operation operation
  | set {raw other : String} : RekeyedText raw other → Rekeyed (.set raw) (.set other)
  | put (key : String) {text other : String} :
      RekeyedText text other → Rekeyed (.put key text) (.put key other)

theorem Rekeyed.withSession (rekeyed : left.Rekeyed right) (session : Session) :
    Rekeyed { left with session } { right with session } := by
  obtain ⟨_, store, environment, rfl, ⟨guise, rfl, -, log⟩, kept⟩ := rekeyed
  exact ⟨_, store, environment, rfl,
    ⟨{ guise with credential := session.credential }, rfl, .refl _, log⟩, kept⟩

theorem Rekeyed.put (rekeyed : left.Rekeyed right) (key : String) {text other : String}
    (alike : RekeyedText text other) :
    (left.act (.put key text)).Rekeyed (right.act (.put key other)) := by
  obtain ⟨exchange, store, environment, rfl, same, stored, supplied⟩ := rekeyed
  exact ⟨exchange, _, environment, rfl, same, (stored.set key alike).2, supplied⟩

theorem Rekeyed.act (rekeyed : left.Rekeyed right) {operation other : Operation}
    (alike : operation.Rekeyed other) :
    (left.act operation).Rekeyed (right.act other) := by
  cases alike with
  | set texts => exact (rekeyed.setKey texts).2
  | put key texts => exact rekeyed.put key texts
  | same apart apartToo =>
      cases operation with
      | resolve => exact (rekeyed.runCredential .readCurrent).2
      | set raw => exact (rekeyed.setKey (.refl raw)).2
      | clear => exact (rekeyed.runCredential (.removeCurrent false)).2
      | snapshot => exact rekeyed.snapshot
      | restore => exact absurd rfl apart
      | restoreOrDefaults => exact absurd rfl apartToo
      | call made => exact (conceals_lift (Exchange.conceals_perform made.endpoint) rekeyed).2
      | request made =>
          exact (conceals_lift (Exchange.conceals_perform (Api.raw made)) rekeyed).2
      | loadRuntimeConfig => exact (conceals_lift Exchange.conceals_loadRuntimeConfig rekeyed).2
      | poll watched => exact (conceals_poll watched rekeyed).2
      | release path arrival => exact (conceals_release path arrival rekeyed).2
      | put key text => exact rekeyed.put key (.refl text)
      | remove key =>
          obtain ⟨exchange, store, environment, rfl, same, stored, supplied⟩ := rekeyed
          exact ⟨exchange, _, environment, rfl, same, (stored.remove key).2, supplied⟩
      | fail failing =>
          obtain ⟨exchange, store, environment, rfl, same, stored, supplied⟩ := rekeyed
          exact ⟨exchange, _, environment, rfl, same, ⟨rfl, stored.texts⟩, supplied⟩
      | replace tree =>
          simp only [Client.act]
          split
          · exact rekeyed.withSession _
          · exact rekeyed
      | setDomain domain =>
          have blind : Session.Blind fun session => ((), session.setDomain domain) :=
            fun _ _ => rfl
          exact (conceals_lift (Exchange.conceals_change blind) rekeyed).2
      | setApiError apiError =>
          have blind : Session.Blind fun session => ((), session.setApiError apiError) :=
            fun _ _ => rfl
          exact (conceals_lift (Exchange.conceals_change blind) rekeyed).2
      | script more =>
          obtain ⟨_, store, environment, rfl, ⟨guise, rfl, same⟩, kept⟩ := rekeyed
          exact ⟨_, store, environment, rfl, ⟨guise, rfl, same⟩, kept⟩
      | _ =>
          obtain ⟨exchange, store, environment, rfl, same⟩ := rekeyed
          exact ⟨exchange, store, environment, rfl, same⟩

/-! ## Deeds -/

/-- What is done to a client, its engine included. -/
inductive Deed
  | operation (operation : Operation)
  | startEngine (config : PollConfig)
  | stopEngine
  | setInterval (interval : Duration)
  | advance (totalMs sliceMs : Nat)

/-- The client after a deed; there is none when the engine's clock would have to show more than it
can. -/
def do? (client : Client) : Deed → Option Client
  | .operation operation => some (client.act operation)
  | .startEngine config => (client.startEngine? config).map Prod.snd
  | .stopEngine => client.stopEngine?
  | .setInterval interval => (client.setInterval? interval).map Prod.snd
  | .advance totalMs sliceMs => client.advance? totalMs sliceMs

/-- The client after deeds one after the other. -/
def doAll? (deeds : List Deed) (client : Client) : Option Client :=
  deeds.foldlM do? client

/-- Whether two deeds are the same but for keys in what is entered or put into storage, and restore
nothing. -/
inductive Deed.Rekeyed : Deed → Deed → Prop
  | operation {operation other : Operation} :
      operation.Rekeyed other → Rekeyed (.operation operation) (.operation other)
  | startEngine (config : PollConfig) : Rekeyed (.startEngine config) (.startEngine config)
  | stopEngine : Rekeyed .stopEngine .stopEngine
  | setInterval (interval : Duration) : Rekeyed (.setInterval interval) (.setInterval interval)
  | advance (totalMs sliceMs : Nat) : Rekeyed (.advance totalMs sliceMs) (.advance totalMs sliceMs)

theorem Rekeyed.pollTimes (rekeyed : left.Rekeyed right) (count : Nat) :
    (Client.pollTimes count left).Rekeyed (Client.pollTimes count right) := by
  induction count generalizing left right with
  | zero => exact rekeyed
  | succ count ih =>
      rw [Client.pollTimes, Client.pollTimes, rekeyed.polled_eq]
      exact ih (conceals_poll left.polled rekeyed).2

theorem Rekeyed.settleEngine (rekeyed : left.Rekeyed right) (engine : Engine.Line Timers) :
    (left.settleEngine engine).Rekeyed (right.settleEngine engine) := by
  obtain ⟨_, store, environment, rfl, ⟨guise, rfl, credential, log⟩, kept⟩ := rekeyed
  have said : engine.shared.log ++ guise.log = engine.shared.log ++ left.log := by rw [log]
  refine Rekeyed.pollTimes ?_ _
  exact ⟨_, store, environment, rfl,
    ⟨{ guise with log := engine.shared.log ++ guise.log }, rfl, credential, said⟩, kept⟩

theorem Rekeyed.settled (rekeyed : left.Rekeyed right) (moves : Option (Engine.Line Timers)) :
    Option.Rel Rekeyed (moves.map left.settleEngine) (moves.map right.settleEngine) := by
  cases moves with
  | none => exact .none
  | some engine => exact .some (rekeyed.settleEngine engine)

/-- Whatever is done to a client or its engine, it goes the same way whatever the keys are. -/
theorem Rekeyed.do? (rekeyed : left.Rekeyed right) {deed other : Deed}
    (alike : deed.Rekeyed other) : Option.Rel Rekeyed (left.do? deed) (right.do? other) := by
  cases alike with
  | operation operations => exact .some (rekeyed.act operations)
  | startEngine config =>
      have settled := rekeyed.settled ((Engine.start? config left.engine).map Prod.snd)
      simpa only [Client.do?, startEngine?, rekeyed.engine_eq, Option.map_map, Function.comp_def]
        using settled
  | stopEngine =>
      rw [Client.do?, Client.do?, stopEngine?, stopEngine?, rekeyed.engine_eq]
      exact rekeyed.settled _
  | setInterval interval =>
      have settled := rekeyed.settled ((Engine.setInterval? interval left.engine).map Prod.snd)
      simpa only [Client.do?, setInterval?, rekeyed.engine_eq, Option.map_map, Function.comp_def]
        using settled
  | advance totalMs sliceMs =>
      refine Engine.rel_foldlM (fun one two millis alike => ?_) _ left right rekeyed
      rw [alike.engine_eq]
      exact alike.settled _

theorem Rekeyed.doAll? {deeds others : List Deed} (alike : List.Forall₂ Deed.Rekeyed deeds others)
    (rekeyed : left.Rekeyed right) :
    Option.Rel Rekeyed (left.doAll? deeds) (right.doAll? others) := by
  induction alike generalizing left right with
  | nil => exact .some rekeyed
  | cons first _ ih => exact Engine.rel_bind (rekeyed.do? first) fun _ _ next => ih next

/-! ## What can be seen -/

/-- Whether two clients have the same log, and describe alike the credential in effect, the one that
they resolve next, and the one that comes of what is entered next. -/
structure Indistinct (left right : Client) : Prop where
  log : right.log = left.log
  inEffect : right.session.credential.describe = left.session.credential.describe
  resolved : right.resolveKey.1.describe = left.resolveKey.1.describe
  entered : ∀ raw other, RekeyedText raw other →
    (right.setKey other).1.describe = (left.setKey raw).1.describe

theorem Rekeyed.indistinct (rekeyed : left.Rekeyed right) :
    Indistinct left right where
  log := by
    obtain ⟨_, store, environment, rfl, ⟨guise, rfl, -, log⟩, -⟩ := rekeyed
    exact log
  inEffect := by
    obtain ⟨_, store, environment, rfl, ⟨guise, rfl, credential, -⟩, -⟩ := rekeyed
    exact credential.describe_eq
  resolved := (rekeyed.runCredential .readCurrent).1.describe_eq
  entered raw other texts := (rekeyed.setKey texts).1.describe_eq

/-- Whatever is done to two clients that differ in the keys that are in storage, that the
environment supplies or that are entered, each key having the same first six characters as the one
in its place: they say the same, and describe every credential alike. -/
theorem logs_show_masked_keys_alone (client : Client) {store : MemoryStore}
    {environment : Option String} {deeds others : List Deed}
    (stored : client.store.Rekeyed store)
    (supplied : Option.Rel RekeyedText client.environment environment)
    (alike : List.Forall₂ Deed.Rekeyed deeds others) :
    Option.Rel Indistinct (client.doAll? deeds)
      ({ client with store, environment }.doAll? others) := by
  have start : client.Rekeyed { client with store, environment } :=
    ⟨client.toExchange, store, environment, rfl, ⟨client.guise, rfl, .refl _, rfl⟩, stored,
      supplied⟩
  have reached := Rekeyed.doAll? alike start
  generalize client.doAll? deeds = left at reached ⊢
  generalize doAll? others _ = right at reached ⊢
  cases reached with
  | none => exact .none
  | some rekeyed => exact .some rekeyed.indistinct

/-- A client whose storage holds a key where earlier versions kept it, and whose environment
supplies the same one with blanks around it. -/
def keyKeeper (key : String) : Client :=
  { (start? ⟨[], []⟩ none {} [] .token {}).get (by decide) with
    store := ⟨[(CredentialStore.legacyKey, key)], []⟩
    environment := some (" " ++ key ++ "\n") }

/-- The key is resolved and used; then storage fails, the key is entered, and what is entered next
is malformed, so that the one in the environment is resolved. -/
def keyDeeds (key : String) : List Deed :=
  [.operation .resolve, .operation (.call .randomDomain), .operation (.setDomain "a.example"),
    .operation (.poll .submission), .operation (.fail ["get:DNSLOG_API_KEY", "set"]),
    .operation (.set (" " ++ key)), .operation (.set "key"), .operation .resolve, .startEngine {},
    .stopEngine]

/-- Twelve lines are said about either of two keys, and they are the same. -/
theorem logs_of_two_keys :
    let one := String.ofList (List.replicate 64 'a')
    let two := String.ofList (List.replicate 6 'a' ++ List.replicate 58 'b')
    one ≠ two ∧ (keyKeeper one).store.Rekeyed (keyKeeper two).store ∧
      Option.Rel RekeyedText (keyKeeper one).environment (keyKeeper two).environment ∧
      List.Forall₂ Deed.Rekeyed (keyDeeds one) (keyDeeds two) ∧
      ∃ left right, (keyKeeper one).doAll? (keyDeeds one) = some left ∧
        (keyKeeper two).doAll? (keyDeeds two) = some right ∧ left.log.length = 12 ∧
        Indistinct left right := by
  intro one two
  have keys : RekeyedText one two :=
    .of_isApiKey (by decide +kernel) (by decide +kernel) (by decide +kernel)
  have stored : (keyKeeper one).store.Rekeyed (keyKeeper two).store := by
    refine ⟨rfl, fun key => ?_⟩
    change Option.Rel RekeyedText (if CredentialStore.legacyKey = key then some one else none)
      (if CredentialStore.legacyKey = key then some two else none)
    split
    · exact .some keys
    · exact .none
  have supplied : Option.Rel RekeyedText (keyKeeper one).environment (keyKeeper two).environment :=
    .some (((RekeyedText.refl " ").append keys).append (.refl "\n"))
  have same {operation : Operation} (apart : operation ≠ .restore)
      (apartToo : operation ≠ .restoreOrDefaults) :
      Deed.Rekeyed (.operation operation) (.operation operation) :=
    .operation (.same apart apartToo)
  have deeds : List.Forall₂ Deed.Rekeyed (keyDeeds one) (keyDeeds two) :=
    .cons (same nofun nofun) <| .cons (same nofun nofun) <| .cons (same nofun nofun) <|
      .cons (same nofun nofun) <| .cons (same nofun nofun) <|
      .cons (.operation (.set ((RekeyedText.refl " ").append keys))) <|
      .cons (same nofun nofun) <| .cons (same nofun nofun) <| .cons (.startEngine {}) <|
      .cons .stopEngine .nil
  have said : ((keyKeeper one).doAll? (keyDeeds one)).map (·.log.length) = some 12 := by
    decide +kernel
  obtain ⟨left, ran, twelve⟩ := Option.map_eq_some_iff.mp said
  have reached := logs_show_masked_keys_alone (keyKeeper one) stored supplied deeds
  change Option.Rel Indistinct _ ((keyKeeper two).doAll? (keyDeeds two)) at reached
  rw [ran] at reached
  generalize otherRan : (keyKeeper two).doAll? (keyDeeds two) = other at reached ⊢
  cases reached with
  | some indistinct =>
      exact ⟨by decide +kernel, stored, supplied, deeds, left, _, ran, rfl, twelve, indistinct⟩

end Client
end ProbeWatch
