import ProbeWatch.Proofs.Client.Guise

/-!
# Credentials on the wire

What the environment supplies shows in one header of requests alone.  That header is on every
request as long as there is a credential, and the credential then has the form of an API key.
-/

namespace ProbeWatch

/-- The request without the header that carries a credential. -/
def Request.withoutKey (request : Request) : Request :=
  { request with headers := request.headers.filter fun header => header.1 != Gateway.apiKeyHeader }

theorem Gateway.withoutKey_authorize (credential : Credential) (request : Request) :
    (authorize credential request).withoutKey = request.withoutKey := by
  rw [authorize]
  split
  · rfl
  · simp [Request.withoutKey, Request.withHeader]

/-- The headers that a credential is sent in. -/
def Credential.headers (credential : Credential) : List (String × String) :=
  if credential.isEmpty then [] else [(Gateway.apiKeyHeader, credential.value)]

theorem Gateway.headers_authorize (credential : Credential) (request : Request) :
    (authorize credential request).headers = request.headers ++ credential.headers := by
  rw [authorize, Credential.headers]
  split <;> simp [Request.withHeader]

namespace Client

/-! ## What a client makes of its own credential -/

section

variable {act : Client → Client} {client : Client} {requests : List Request}

theorem Conducts.sent (conducts : client.Conducts act requests) :
    (act client).sent =
      requests.map (Gateway.authorize client.session.credential) ++ client.sent := by
  obtain ⟨credential, log, -, own⟩ := conducts client.guise client.environment
  exact congrArg (·.sent) own

theorem Conducts.wellFormed (conducts : client.Conducts act requests)
    (formed : client.session.credential.WellFormed) :
    (act client).session.credential.WellFormed := by
  obtain ⟨credential, log, kept, own⟩ := conducts client.guise client.environment
  have left : (act client).session.credential = credential :=
    congrArg (·.session.credential) own
  rw [left]
  exact kept formed

end

/-! ## Two environments -/

/-- Whether two clients differ in their environments alone and in what comes of them: the
credential, its header on requests, and the log. -/
def Alike (left right : Client) : Prop :=
  ∃ guise environment, right = left.inGuise guise environment ∧
    guise.sent.map Request.withoutKey = left.sent.map Request.withoutKey

theorem Alike.act {left right : Client} (alike : Alike left right) (operation : Operation) :
    Alike (left.act operation) (right.act operation) := by
  obtain ⟨guise, environment, rfl, same⟩ := alike
  obtain ⟨requests, -, conducts⟩ := exists_conducts left operation
  obtain ⟨credential, log, -, moved⟩ := conducts guise environment
  refine ⟨_, environment, moved, ?_⟩
  have sent := conducts.sent
  simp only [Exchange.Guise.after, sent, List.map_append, List.map_map, same]
  congr 1
  exact List.map_congr_left fun request _ => by
    simp only [Function.comp, Gateway.withoutKey_authorize]

theorem Alike.actAll (operations : List Operation) {left right : Client}
    (alike : Alike left right) : Alike (left.actAll operations) (right.actAll operations) := by
  induction operations generalizing left right with
  | nil => exact alike
  | cons operation rest ih => exact ih (alike.act operation)

/-- Whatever is done to a client, and whichever storage operations fail meanwhile, the key that its
environment supplies has no influence on what it stores, on the tree of its session and on its
requests, but for the header that carries the credential. -/
theorem environment_shows_in_headers_alone (client : Client) (environment : Option String)
    (operations : List Operation) :
    let left := client.actAll operations
    let right := { client with environment }.actAll operations
    right.store = left.store ∧
      (right.session.text = left.session.text ∧ right.session.system = left.session.system ∧
        right.session.runtime = left.session.runtime ∧
        right.session.results = left.session.results) ∧
      right.sent.map Request.withoutKey = left.sent.map Request.withoutKey := by
  intro left right
  have start : Alike client { client with environment } :=
    ⟨client.guise, environment, rfl, rfl⟩
  obtain ⟨guise, environment', moved, same⟩ := start.actAll operations
  change right = left.inGuise guise environment' at moved
  rw [moved]
  exact ⟨rfl, ⟨rfl, rfl, rfl, rfl⟩, same⟩

/-! ## The header -/

theorem wellFormed_actAll (operations : List Operation) {client : Client}
    (formed : client.session.credential.WellFormed) :
    (client.actAll operations).session.credential.WellFormed := by
  induction operations generalizing client with
  | nil => exact formed
  | cons operation rest ih =>
      obtain ⟨requests, -, conducts⟩ := exists_conducts client operation
      exact ih (conducts.wellFormed formed)

/-- The headers that the requests of an operation have in any case. -/
def Operation.ownHeaders : Operation → List (String × String)
  | .request made => made.headers
  | _ => []

theorem Operation.Permits.headers {operation : Operation} {requests : List Request}
    (permits : operation.Permits requests) {request : Request} (made : request ∈ requests) :
    request.headers = operation.ownHeaders := by
  cases operation with
  | call call =>
      cases permits
      rw [List.mem_singleton.mp made]
      exact call.headers_request
  | request own =>
      cases permits
      rw [List.mem_singleton.mp made]
      rfl
  | _ => exact permits request made

/-- Whatever is done to a client that starts with a fresh session, its credential is absent or a key
of the right form; and whatever is done next, each request has the credential then in effect in one
header beyond its own, or no such header if there is none. -/
theorem credentials_reach_the_wire {client : Client} (fresh : client.session = {})
    (operations : List Operation) :
    let reached := client.actAll operations
    reached.session.credential.WellFormed ∧
      ∀ operation : Operation, ∃ requests,
        (reached.act operation).sent = requests ++ reached.sent ∧
          (∀ request ∈ requests,
            request.headers = operation.ownHeaders ++ reached.session.credential.headers) ∧
          ∀ call, operation = .call call →
            requests = [Gateway.authorize reached.session.credential call.endpoint.request] := by
  intro reached
  have formed : client.session.credential.WellFormed := by
    rw [fresh]
    exact Credential.wellFormed_absent
  refine ⟨wellFormed_actAll operations formed, fun operation => ?_⟩
  obtain ⟨requests, permits, conducts⟩ := exists_conducts reached operation
  refine ⟨_, conducts.sent, ?_, ?_⟩
  · intro request found
    obtain ⟨made, among, rfl⟩ := List.mem_map.mp found
    rw [Gateway.headers_authorize, permits.headers among]
  · rintro call rfl
    cases permits
    rfl

/-- A client whose storage holds a key where earlier versions kept it. -/
def keyHolder : Client :=
  let key := String.ofList (List.replicate 64 'a')
  (start? ⟨[(CredentialStore.legacyKey, key)], []⟩ none {} [] .token {}).get (by decide)

/-- The key is found, and the first request has it in its header. -/
theorem headers_of_stored_key :
    let key := String.ofList (List.replicate 64 'a')
    let reached := keyHolder.actAll [.resolve]
    keyHolder.session = {} ∧ reached.session.credential = ⟨key, .stored⟩ ∧
      (reached.act (.call .randomDomain)).sent.map Request.headers = [[("X-API-Key", key)]] := by
  intro key reached
  have fresh : keyHolder.session = {} := rfl
  have found : reached.session.credential = ⟨key, .stored⟩ := by decide +kernel
  have shown : Credential.headers ⟨key, .stored⟩ = [("X-API-Key", key)] := by decide +kernel
  have unsent : reached.sent = [] := rfl
  obtain ⟨requests, sent, headers, single⟩ :=
    (credentials_reach_the_wire fresh [.resolve]).2 (.call .randomDomain)
  have one := single .randomDomain rfl
  have header := headers _ (one ▸ List.mem_singleton_self _)
  refine ⟨fresh, found, ?_⟩
  rw [sent, one, unsent, List.append_nil, List.map_singleton, header, found, shown]
  rfl

end Client
end ProbeWatch
