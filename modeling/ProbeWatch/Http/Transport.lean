import ProbeWatch.BaseUrl
import ProbeWatch.Failure
import ProbeWatch.Http.Charset
import ProbeWatch.Http.Request
import ProbeWatch.Json.Printer
import ProbeWatch.Url.Basic

/-!
# HTTP transports

A transport makes requests to a backend at an absolute web address.  What goes over the wire is the
target of the request, its headers with the ones that are always there, and a JSON body.
-/

namespace ProbeWatch

/-- A transport. -/
structure HttpTransport where
  /-- The address of the backend, without slashes at its end. -/
  baseUrl : String
deriving DecidableEq, Inhabited

namespace HttpTransport

/-- The name of the transport. -/
def name : String := "reqwest"

/-- The schemes that a backend can be reached by. -/
def schemes : List String := ["http", "https"]

/-- A transport to the backend at an address. -/
def ofBaseUrl (raw : String) : Except Failure HttpTransport :=
  let baseUrl := String.ofList (BaseUrl.stripped raw.toList)
  match Url.parse baseUrl with
  | .error error =>
      .error (.config ("API base URL '" ++ baseUrl ++ "' must be an absolute http(s) URL: " ++
        error.message))
  | .ok url =>
      if schemes.contains url.scheme then
        .ok ⟨baseUrl⟩
      else
        .error (.config ("Unsupported API base URL scheme '" ++ url.scheme ++
          "'. Valid schemes: http, https"))

/-- The URL of a path. -/
def urlFor (transport : HttpTransport) (path : String) : String :=
  transport.baseUrl ++ (if ['/'].isPrefixOf path.toList then "" else "/") ++ path

/-! ## Messages -/

/-- What goes over the wire for a request. -/
structure Message where
  method : Method
  target : String
  /-- The headers, in the order of their names in lower case, without the host. -/
  headers : List (String × String)
  body : Option String
deriving DecidableEq

/-- Whether a character may occur in the name of a header. -/
def isHeaderNameChar (c : Char) : Bool :=
  c.isAlphanum || "!#$%&'*+-.^_`|~".toList.contains c

/-- Whether a character may occur in the value of a header. -/
def isHeaderValueChar (c : Char) : Bool :=
  (32 ≤ c.toNat && c.toNat != 127) || c == '\t'

/-- Whether a pair can be sent as a header. -/
def isHeader (header : String × String) : Bool :=
  !header.1.isEmpty && header.1.all isHeaderNameChar && header.2.all isHeaderValueChar

/-- A header with its name in lower case. -/
def lowered (header : String × String) : String × String :=
  (String.ofList (Text.asciiLowerChars header.1.toList), header.2)

/-- The headers with one more, unless there is one of its name. -/
def withDefault (headers : List (String × String)) (name value : String) : List (String × String) :=
  if headers.any (fun header => header.1 == name) then headers else headers ++ [(name, value)]

/-- The text of the body of a request.  A request that creates or replaces always has one. -/
def bodyText (request : Request) : Option String :=
  match request.body with
  | some body => some body.sorted.compact
  | none => if request.method = .post ∨ request.method = .put then some "\x7b\x7d" else none

/-- The headers of a message. -/
def messageHeaders (request : Request) (body : Option String) : List (String × String) :=
  let headers := request.headers.map lowered
  let headers :=
    match body with
    | some text =>
        withDefault (withDefault headers "content-type" "application/json") "content-length"
          (toString text.utf8ByteSize)
    | none => headers
  (withDefault headers "accept" "*/*").mergeSort fun left right => left.1 ≤ right.1

/-- What goes over the wire for a request, unless it cannot be sent. -/
def message? (transport : HttpTransport) (request : Request) : Option Message :=
  match Url.parse (transport.urlFor request.path) with
  | .error _ => none
  | .ok url =>
      if request.headers.all isHeader then
        let body := bodyText request
        some ⟨request.method, url.target request.query, messageHeaders request body, body⟩
      else
        none

/-- What the server does with a request. -/
inductive ServerConduct
  /-- It answers. -/
  | responds (status : UInt16) (headers : List (String × String)) (body : List UInt8)
  /-- It closes the connection without an answer. -/
  | closes
  /-- It closes the connection in the middle of the answer. -/
  | truncates
  /-- It does not take the connection. -/
  | refuses
  /-- It does not answer until the time is up. -/
  | stalls

/-- Whether an answer of a status has no body. -/
def isBodiless (status : UInt16) : Bool := status == 204 || status == 304

/-- The reply that a server's conduct leads to. -/
def replyOf : ServerConduct → Reply
  | .responds status headers body =>
      let contentType :=
        (headers.find? fun header => Request.sameHeader header.1 "content-type").map Prod.snd
      .ok ⟨status, Charset.readBody contentType (if isBodiless status then [] else body)⟩
  | .closes => .error (.other "connection closed before message completed")
  | .truncates => .error (.other "Failed to read response body")
  | .refuses => .error (.connect "connection refused")
  | .stalls => .error (.timeout "operation timed out")

/-- Sends a request to a server: what goes over the wire, and the reply. -/
def send (transport : HttpTransport) (request : Request) (conduct : ServerConduct) :
    Option Message × Reply :=
  match transport.message? request with
  | none => (none, .error (.other "builder error"))
  | some message =>
      match conduct with
      | .refuses => (none, replyOf conduct)
      | _ => (some message, replyOf conduct)

end HttpTransport
end ProbeWatch
