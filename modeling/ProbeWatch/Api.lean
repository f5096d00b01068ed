import ProbeWatch.Config
import ProbeWatch.Http.Gateway
import ProbeWatch.Text.Percent
import ProbeWatch.Token

/-!
# The backend's endpoints
-/

namespace ProbeWatch

/-- Which part of a listing to ask for. -/
structure PageQuery where
  page : UInt32 := 1
  pageSize : UInt32 := 20
  order : SortOrder := .descending
deriving DecidableEq

/-- The first page of a listing. -/
def PageQuery.first (pageSize : UInt32) (order : SortOrder) : PageQuery :=
  { pageSize, order }

/-- The request for a part of a listing. -/
def PageQuery.apply (query : PageQuery) (request : Request) : Request :=
  ((request.withQuery "page" (toString query.page.toNat)).withQuery "pageSize"
    (toString query.pageSize.toNat)).withQuery "order" query.order.name

namespace Api

/-- A call whose payload is passed on as it is. -/
def raw (request : Request) : Endpoint Json where
  request
  read := some

/-- A call whose payload does not matter. -/
def ignoring (request : Request) : Endpoint Unit where
  request
  read := fun _ => some ()

/-- Submits a domain for lookup. -/
def submitDomain (domain : String) : Endpoint SubmitResult where
  request :=
    { method := .post, path := "/submit", body := some (.object [("domain_name", .string domain)]) }
  read := SubmitResult.ofJson?

/-- The domain in the payload of a generated domain: a text, or the member of that name. -/
def readDomain (data : Json) : Option String :=
  let domain :=
    match data with
    | .string domain => some domain
    | other => (other.member? "domain").bind Json.text?
  domain.bind Text.trimmed?

/-- Asks for a new probe domain. -/
def randomDomain : Endpoint String where
  request := { method := .post, path := "/random-domain" }
  read := readDomain
  warns := false

/-- The path of a token. -/
def tokenPath (token : Token) : String := "/tokens/" ++ Text.encodeSegment token.text

/-- Asks for the status of a token. -/
def tokenStatus (token : Token) : Endpoint TokenStatus where
  request := { method := .get, path := tokenPath token }
  read := TokenStatus.ofJson?

/-- Asks for the lookups of a token. -/
def tokenRecords (token : Token) (query : PageQuery) : Endpoint (Page DnsRecord) where
  request := query.apply { method := .get, path := tokenPath token ++ "/records" }
  read := Page.ofJson? DnsRecord.ofJson?

/-- Lists the tokens. -/
def listTokens (query : PageQuery) : Endpoint (Page TokenSummary) where
  request := query.apply { method := .get, path := "/tokens" }
  read := Page.ofJson? TokenSummary.ofJson?

/-- Creates an API key. -/
def createApiKey (name : String) (comment : Option String) : Endpoint CreatedApiKey where
  request :=
    { method := .post
      path := "/keys"
      body := some (.object (("name", .string name) ::
        (comment.map fun text => ("comment", Json.string text)).toList)) }
  read := CreatedApiKey.ofJson?

/-- Lists the API keys. -/
def listApiKeys (query : PageQuery) : Endpoint (Page ApiKeyInfo) where
  request := query.apply { method := .get, path := "/keys" }
  read := Page.ofJson? ApiKeyInfo.ofJson?

/-- Disables an API key. -/
def disableApiKey (id : Int64) : Endpoint Unit :=
  ignoring { method := .post, path := "/keys/" ++ toString id.toInt ++ "/disable" }

/-- Blocks an address. -/
def addBlacklist (ip : String) (reason : Option String) : Endpoint Json :=
  raw
    { method := .post
      path := "/blacklist"
      body := some (.object [("ip", .string ip), ("reason", .string (reason.getD ""))]) }

/-- Lists the blocked addresses. -/
def listBlacklist (query : PageQuery) : Endpoint (Page BlacklistEntry) where
  request := query.apply { method := .get, path := "/blacklist" }
  read := Page.ofJson? BlacklistEntry.ofJson?

/-- Lifts the block of an address. -/
def disableBlacklist (id : Int64) : Endpoint Unit :=
  ignoring { method := .post, path := "/blacklist/" ++ toString id.toInt ++ "/disable" }

/-- The port behind the last colon of an address. -/
def inferPort (address : String) : Option String :=
  (Text.afterLast? ':' address.toList).bind fun port => Text.trimmed? (String.ofList port)

/-- The text of a port that is a number or a text. -/
def portText : Json → Option String
  | .string port => some port
  | .number port => some port.render
  | _ => none

/-- Reads the backend's own account of its setup.  Each setting may be spelled in two ways, the
first of which wins, and may be missing. -/
def readRuntimeConfig (data : Json) : Option RuntimeConfig := do
  let fields ← data.fields? 7
  let requiredCamel ← fields.read 0 "apiKeyRequired" (Json.optional? Json.bool?) none
  let requiredSnake ← fields.read 1 "api_key_required" (Json.optional? Json.bool?) none
  let portCamel ← fields.read 2 "dnsPort" (Json.optional? some) none
  let portSnake ← fields.read 3 "dns_port" (Json.optional? some) none
  let listenAddress ← fields.read 4 "dns_listen_addr" (Json.optional? Json.text?) none
  let rootCamel ← fields.read 5 "rootDomain" (Json.optional? Json.text?) none
  let rootSnake ← fields.read 6 "root_domain" (Json.optional? Json.text?) none
  let defaults : RuntimeConfig := {}
  let port := ((portCamel <|> portSnake).bind portText).filter (!·.isEmpty)
  return {
    apiKeyRequired := (requiredCamel <|> requiredSnake).getD defaults.apiKeyRequired
    dnsPort := (port <|> listenAddress.bind inferPort).getD defaults.dnsPort
    rootDomain := (rootCamel <|> rootSnake).getD defaults.rootDomain }

/-- Asks for the backend's setup. -/
def runtimeConfig : Endpoint RuntimeConfig where
  request := { method := .get, path := "/config" }
  read := readRuntimeConfig
  warns := false

/-- What is said about the backend's setup. -/
def setupLine : Except ApiError RuntimeConfig → LogLine
  | .ok runtime =>
      .info .api ("Runtime config: api_key_required=" ++
        (if runtime.apiKeyRequired then "true" else "false") ++ " dns_port=" ++ runtime.dnsPort ++
        " root_domain=" ++ runtime.rootDomain)
  | .error error =>
      .warn .api ("Failed to load runtime config, keeping defaults: " ++ error.message)

/-- The session that adopts the backend's setup, if it was told. -/
def adoptRuntimeConfig (result : Except ApiError RuntimeConfig) (session : Session) : Session :=
  match result with
  | .ok runtime => { session with runtime }
  | .error _ => session

end Api
end ProbeWatch
