import ProbeWatch.Http.Request
import ProbeWatch.Json.Node
import ProbeWatch.Log
import ProbeWatch.Session.Basic

/-!
# The request gateway

Every call to the backend passes here.  A request is sent with the credential in effect; its reply
is read as an envelope whose code decides between payload and failure, and the outcome becomes the
session's API error.  A call is two steps, sending and completing, with the exchange in between.
-/

namespace ProbeWatch

/-- A request and how to read the payload of its answer. -/
structure Endpoint (α : Type) where
  request : Request
  /-- Reads the payload of a successful envelope. -/
  read : Json → Option α
  /-- Whether it is logged when a payload cannot be read. -/
  warns : Bool := true

namespace Gateway

/-- The header that carries the credential. -/
def apiKeyHeader : String := "X-API-Key"

/-- The code of a successful envelope. -/
def successCode : Int := 200

/-- The request with the credential in effect, if there is one. -/
def authorize (credential : Credential) (request : Request) : Request :=
  if credential.isEmpty then request else request.withHeader apiKeyHeader credential.value

/-- What is said about a request when it is sent. -/
def sendLine (transport : String) (credential : Credential) (request : Request) : LogLine :=
  .debug .gateway ("[" ++ transport ++ "] " ++ request.method.name ++ " " ++ request.path ++
    " key=" ++ credential.shown ++ " injected=" ++ (if credential.isEmpty then "false" else "true"))

/-- The code of an envelope. -/
def code? (envelope : Option Json) : Option Int :=
  ((envelope.bind (Json.member? "code")).bind Json.int64?).map Int64.toInt

/-- The message of an envelope. -/
def message? (envelope : Option Json) : Option String :=
  (envelope.bind (Json.member? "message")).bind Json.text?

/-- The payload of a reply, or the failure that it stands for. -/
def payload (path : String) (apiKeyRequired : Option Bool) : Reply → Except ApiError Json
  | .error _ => .error (.classify none true path none apiKeyRequired)
  | .ok response =>
      let envelope := Json.parse? response.body
      if code? envelope = some successCode then
        .ok ((envelope.bind (Json.member? "data")).getD .null)
      else
        .error (.classify (some response.status) false path (message? envelope) apiKeyRequired)

/-- What is said about a reply that stands for a failure. -/
def failureLines (path : String) (apiKeyRequired : Option Bool) (reply : Reply) : List LogLine :=
  match reply with
  | .error error => [.debug .gateway (path ++ " failed without a response: " ++ error.message)]
  | .ok response =>
      match payload path apiKeyRequired reply with
      | .ok _ => []
      | .error error =>
          let code :=
            match code? (Json.parse? response.body) with
            | some code => "Some(" ++ toString code ++ ")"
            | none => "None"
          [.debug .gateway (path ++ " failed: status=" ++ toString response.status.toNat ++
            " code=" ++ code ++ " kind=" ++ error.kind.name)]

/-- What is said about a payload that cannot be read, in the decoder's words. -/
def payloadLines {α : Type} (words : Json → String) (endpoint : Endpoint α)
    (apiKeyRequired : Option Bool) (reply : Reply) : List LogLine :=
  match payload endpoint.request.path apiKeyRequired reply with
  | .error _ => []
  | .ok data =>
      if endpoint.warns && (endpoint.read data).isNone then
        [.warn .gateway
          ("Unexpected payload from " ++ endpoint.request.path ++ ": " ++ words data)]
      else
        []

/-- The value of a reply, or the failure that it stands for. -/
def outcome {α : Type} (endpoint : Endpoint α) (apiKeyRequired : Option Bool) (reply : Reply) :
    Except ApiError α :=
  match payload endpoint.request.path apiKeyRequired reply with
  | .error error => .error error
  | .ok data =>
      match endpoint.read data with
      | some value => .ok value
      | none => .error (.unexpectedPayload endpoint.request.path)

/-- The API error that an outcome leaves behind. -/
def errorOf {α : Type} : Except ApiError α → Option ApiError
  | .ok _ => none
  | .error error => some error

/-- Completes a call: the value or failure of its reply, and the session that knows of it. -/
def complete {α : Type} (endpoint : Endpoint α) (reply : Reply) (session : Session) :
    Except ApiError α × Session :=
  let result := outcome endpoint (some session.runtime.apiKeyRequired) reply
  (result, session.setApiError (errorOf result))

end Gateway
end ProbeWatch
