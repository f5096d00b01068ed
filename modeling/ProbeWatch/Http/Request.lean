import ProbeWatch.Json.Basic
import ProbeWatch.Text.Lowercase

/-!
# Requests and responses

One HTTP exchange as the gateway sees it: a request below the base URL, and either a response or
the reason why none arrived.
-/

namespace ProbeWatch

/-- The method of a request. -/
inductive Method
  | get
  | post
  | put
  | delete
deriving DecidableEq, Inhabited

namespace Method

/-- The name of a method. -/
def name : Method → String
  | .get => "GET"
  | .post => "POST"
  | .put => "PUT"
  | .delete => "DELETE"

/-- The method of a name. -/
def ofName? : String → Option Method
  | "GET" => some .get
  | "POST" => some .post
  | "PUT" => some .put
  | "DELETE" => some .delete
  | _ => none

end Method

/-- A request. -/
structure Request where
  method : Method
  /-- The path below the base URL. -/
  path : String
  query : List (String × String) := []
  headers : List (String × String) := []
  body : Option Json := none

namespace Request

/-- The request with one more query parameter at the end. -/
def withQuery (request : Request) (name value : String) : Request :=
  { request with query := request.query ++ [(name, value)] }

/-- The request with one more header at the end. -/
def withHeader (request : Request) (name value : String) : Request :=
  { request with headers := request.headers ++ [(name, value)] }

/-- Whether two header names are the same up to the case of ASCII letters. -/
def sameHeader (left right : String) : Bool :=
  Text.asciiLowerChars left.toList == Text.asciiLowerChars right.toList

/-- The value of the first header of a name. -/
def header? (request : Request) (name : String) : Option String :=
  (request.headers.find? fun header => sameHeader header.1 name).map Prod.snd

end Request

/-- A response that arrived. -/
structure Response where
  status : UInt16
  body : String
deriving DecidableEq, Inhabited

/-- Why no response arrived. -/
inductive TransportError
  | connect (reason : String)
  | timeout (reason : String)
  | other (reason : String)
deriving DecidableEq, Inhabited

/-- The text of an error. -/
def TransportError.message : TransportError → String
  | .connect reason => "connection failed: " ++ reason
  | .timeout reason => "request timed out: " ++ reason
  | .other reason => "request failed: " ++ reason

/-- What an exchange ended with. -/
abbrev Reply := Except TransportError Response

end ProbeWatch
