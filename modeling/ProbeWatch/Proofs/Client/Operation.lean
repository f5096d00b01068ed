import ProbeWatch.Client.Polling

/-!
# Operations on a client

What is done to a client, one operation after the other: by the user, by what watches the backend
and by what persists the session.  Storage may be put out of order at any time.
-/

namespace ProbeWatch

/-! ## Calls to the backend -/

namespace Api

/-- A call to one of the backend's endpoints. -/
inductive Call
  | submitDomain (domain : String)
  | randomDomain
  | tokenStatus (token : Token)
  | tokenRecords (token : Token) (query : PageQuery)
  | listTokens (query : PageQuery)
  | createApiKey (name : String) (comment : Option String)
  | listApiKeys (query : PageQuery)
  | disableApiKey (id : Int64)
  | addBlacklist (ip : String) (reason : Option String)
  | listBlacklist (query : PageQuery)
  | disableBlacklist (id : Int64)
  | runtimeConfig

namespace Call

/-- What the answer to a call is read as. -/
def Answer : Call → Type
  | .submitDomain _ => SubmitResult
  | .randomDomain => String
  | .tokenStatus _ => TokenStatus
  | .tokenRecords .. => Page DnsRecord
  | .listTokens _ => Page TokenSummary
  | .createApiKey .. => CreatedApiKey
  | .listApiKeys _ => Page ApiKeyInfo
  | .disableApiKey _ => Unit
  | .addBlacklist .. => Json
  | .listBlacklist _ => Page BlacklistEntry
  | .disableBlacklist _ => Unit
  | .runtimeConfig => RuntimeConfig

/-- The endpoint of a call. -/
def endpoint : (call : Call) → Endpoint call.Answer
  | .submitDomain domain => Api.submitDomain domain
  | .randomDomain => Api.randomDomain
  | .tokenStatus token => Api.tokenStatus token
  | .tokenRecords token query => Api.tokenRecords token query
  | .listTokens query => Api.listTokens query
  | .createApiKey name comment => Api.createApiKey name comment
  | .listApiKeys query => Api.listApiKeys query
  | .disableApiKey id => Api.disableApiKey id
  | .addBlacklist ip reason => Api.addBlacklist ip reason
  | .listBlacklist query => Api.listBlacklist query
  | .disableBlacklist id => Api.disableBlacklist id
  | .runtimeConfig => Api.runtimeConfig

/-- No endpoint asks for headers of its own. -/
theorem headers_request (call : Call) : call.endpoint.request.headers = [] := by
  cases call <;> rfl

end Call
end Api

theorem Poll.headers_of_request? {config : WatchConfig} {poll : Poll} {request : Request}
    (waiting : poll.request? config = some request) : request.headers = [] := by
  cases poll with
  | finished => cases waiting
  | _ =>
      cases waiting
      rfl

/-! ## Operations -/

namespace Client

/-- What is done to a client. -/
inductive Operation
  /-- The credential is resolved. -/
  | resolve
  /-- The user enters a key. -/
  | set (raw : String)
  /-- The user removes the key. -/
  | clear
  /-- The session is written to storage. -/
  | snapshot
  /-- The stored session is laid over the current one. -/
  | restore
  /-- The stored session is laid over a fresh one, which also stands in for it. -/
  | restoreOrDefaults
  /-- The session is replaced by the one that a tree reads as. -/
  | replace (tree : Json)
  /-- The user enters a domain. -/
  | setDomain (domain : String)
  /-- Someone notes an API error or that there is none. -/
  | setApiError (apiError : Option ApiError)
  /-- A call is made to an endpoint. -/
  | call (call : Api.Call)
  /-- A request is made that belongs to no endpoint. -/
  | request (request : Request)
  /-- The backend's setup is asked for and adopted. -/
  | loadRuntimeConfig
  /-- A watch polls. -/
  | poll (watched : Watched)
  /-- The replies from a path are held back from now on. -/
  | hold (path : String)
  /-- They are no longer. -/
  | unhold (path : String)
  /-- A reply that was held back arrives. -/
  | release (path : String) (arrival : Nat)
  /-- Other storage operations fail from now on. -/
  | fail (failing : List String)
  /-- Someone puts a text into storage. -/
  | put (key value : String)
  /-- Someone removes a text from storage. -/
  | remove (key : String)
  /-- The backend has more replies. -/
  | script (more : Script)

/-- The client after an operation. -/
def act (client : Client) : Operation → Client
  | .resolve => client.resolveKey.2
  | .set raw => (client.setKey raw).2
  | .clear => client.clearKey
  | .snapshot => client.snapshot.2
  | .restore => client.restore.2
  | .restoreOrDefaults => client.restoreOrDefaults
  | .replace tree =>
      match Session.ofJson? tree with
      | some session => { client with session }
      | none => client
  | .setDomain domain => { client with session := client.session.setDomain domain }
  | .setApiError apiError => { client with session := client.session.setApiError apiError }
  | .call call => (client.perform call.endpoint).2
  | .request request => (client.perform (Api.raw request)).2
  | .loadRuntimeConfig => client.loadRuntimeConfig.2
  | .poll watched => (client.poll watched).2
  | .hold path => { client with holds := path :: client.holds }
  | .unhold path => { client with holds := client.holds.filter (· != path) }
  | .release path arrival => (client.release path arrival).2
  | .fail failing => { client with store := { client.store with failing } }
  | .put key value => { client with store := (client.store.set key value).1 }
  | .remove key => { client with store := (client.store.remove key).1 }
  | .script more => { client with script := client.script.extend more }

/-- The client after operations one after the other. -/
def actAll (operations : List Operation) (client : Client) : Client :=
  operations.foldl act client

/-! ## Polls in progress -/

/-- Hands a poll its reply, and goes on with it. -/
def resume (watched : Watched) (poll : Poll) (path : String) (reply : Reply) (client : Client) :
    Bool × Client :=
  let delivered := client.lift (client.toExchange.deliver client.config poll path reply)
  delivered.2.goOn watched delivered.1

/-- Holds the reply to a poll back, or goes on with the poll. -/
def answer (watched : Watched) (poll : Poll) (path : String) (reply : Reply) (client : Client) :
    Bool × Client :=
  if client.holds.contains path then
    (false, client.park watched poll path reply)
  else
    client.resume watched poll path reply

theorem goOn_of_finished {client : Client} {poll : Poll}
    (finished : poll.request? client.config = none) (watched : Watched) :
    client.goOn watched poll = (true, client.revise watched) := by
  rw [goOn]
  split
  · rfl
  · rename_i request waiting
    rw [finished] at waiting
    cases waiting

theorem goOn_of_waiting {client : Client} {poll : Poll} {request : Request}
    (waiting : poll.request? client.config = some request) (watched : Watched) :
    client.goOn watched poll =
      (client.lift (client.send request)).2.answer watched poll request.path
        (client.lift (client.send request)).1.reply := by
  rw [goOn]
  split
  · rename_i finished
    rw [finished] at waiting
    cases waiting
  · rename_i request' waiting'
    rw [waiting] at waiting'
    cases waiting'
    rfl

theorem release_eq (client : Client) (path : String) (arrival : Nat) :
    client.release path arrival =
      let isMeant := fun held : HeldPoll => held.path == path && held.arrival == arrival
      match client.waiting.find? isMeant with
      | none => (false, client)
      | some held =>
          let rest := { client with waiting := client.waiting.filter (!isMeant ·) }
          (true, (rest.resume held.watched held.poll held.path held.reply).2) :=
  rfl

end Client
end ProbeWatch
