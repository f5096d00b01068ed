import ProbeWatch.Json.Record
import ProbeWatch.Text.Blank

/-!
# API errors

A failed call is classified by its HTTP status alone, or as a network failure when no response
arrived.
-/

namespace ProbeWatch

/-- The kinds of failure that the user can act upon. -/
inductive ApiErrorKind
  | unauthorized
  | forbidden
  | notFound
  | rateLimited
  | network
  | validation
  | unknown
deriving DecidableEq, Inhabited

namespace ApiErrorKind

/-- The name of a kind. -/
def name : ApiErrorKind → String
  | .unauthorized => "unauthorized"
  | .forbidden => "forbidden"
  | .notFound => "not_found"
  | .rateLimited => "rate_limited"
  | .network => "network"
  | .validation => "validation"
  | .unknown => "unknown"

/-- Reads a kind. -/
def ofJson? (json : Json) : Option ApiErrorKind := do
  match ← json.variant? with
  | "unauthorized" => some .unauthorized
  | "forbidden" => some .forbidden
  | "not_found" => some .notFound
  | "rate_limited" => some .rateLimited
  | "network" => some .network
  | "validation" => some .validation
  | "unknown" => some .unknown
  | _ => none

/-- Writes a kind. -/
def toJson (kind : ApiErrorKind) : Json := .string kind.name

end ApiErrorKind

/-- A failed call. -/
structure ApiError where
  /-- The HTTP status, or zero without a response. -/
  status : UInt16
  kind : ApiErrorKind
  /-- What the user is shown. -/
  message : String
deriving DecidableEq, Inhabited

namespace ApiError

/-- Reads an error; no field has a default. -/
def ofJson? (json : Json) : Option ApiError := do
  let fields ← json.fields? 3
  let status ← fields.require 0 "status" Json.uint16?
  let kind ← fields.require 1 "kind" ApiErrorKind.ofJson?
  let message ← fields.require 2 "message" Json.text?
  return { status, kind, message }

/-- Writes an error. -/
def toJson (error : ApiError) : Json :=
  .object [
    ("status", .nat error.status.toNat),
    ("kind", error.kind.toJson),
    ("message", .string error.message)]

/-- What is said about a failure that brought no message of its own. -/
def genericMessage : String := "request failed"

/-- The failure of a call that got no response. -/
def noResponse (status : UInt16) : ApiError :=
  ⟨status, .network, "network error or service unavailable"⟩

/-- The failure of a call whose payload has an unexpected shape. -/
def unexpectedPayload (path : String) : ApiError :=
  ⟨200, .unknown, "unexpected response from " ++ path⟩

/-- The failure that a response with this status stands for. -/
def ofStatus (status : UInt16) (path : String) (serverMessage : Option String)
    (apiKeyRequired : Option Bool) : ApiError :=
  if status = 401 then
    ⟨status, .unauthorized,
      if apiKeyRequired = some false then
        "backend reports authentication disabled but returned 401; " ++
          "the request path or backend configuration is likely inconsistent"
      else
        "unauthorized: configure an API key"⟩
  else if status = 403 then
    ⟨status, .forbidden, "access denied: blacklisted or missing permission"⟩
  else if status = 404 then
    ⟨status, .notFound, "endpoint or resource not found: " ++ path⟩
  else if status = 429 then
    ⟨status, .rateLimited, "too many requests, retry later"⟩
  else
    ⟨status, .unknown, (serverMessage.bind Text.trimmed?).getD genericMessage⟩

/-- The failure of a call with or without a response. -/
def classify (status : Option UInt16) (transportFailed : Bool) (path : String)
    (serverMessage : Option String) (apiKeyRequired : Option Bool) : ApiError :=
  match status, transportFailed with
  | some status, false => ofStatus status path serverMessage apiKeyRequired
  | status, _ => noResponse (status.getD 0)

end ApiError
end ProbeWatch
