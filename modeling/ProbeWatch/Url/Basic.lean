import ProbeWatch.Url.Host

/-!
# URLs

A URL is read from left to right: scheme, user, host and port are checked, and what follows is kept
as it was written.  The target of a request is made of that rest: its path without dot segments and
its query, both percent-encoded.
-/

namespace ProbeWatch

/-- An absolute URL. -/
structure Url where
  /-- The scheme in lower case. -/
  scheme : String
  /-- What follows the scheme and the host. -/
  rest : List Char
deriving DecidableEq, Inhabited

namespace Url

/-- How the address after a scheme is read. -/
inductive SchemeKind
  /-- With a host, behind any number of slashes of either kind. -/
  | web
  /-- With a host only behind two slashes of either kind. -/
  | file
  /-- With a host only behind two slashes. -/
  | other
deriving DecidableEq

/-- The kind of a scheme. -/
def schemeKind (scheme : List Char) : SchemeKind :=
  let scheme := String.ofList scheme
  if ["http", "https", "ws", "wss", "ftp"].contains scheme then .web
  else if scheme == "file" then .file
  else .other

/-- Whether a character is a slash of either kind. -/
def isSlash (c : Char) : Bool := c == '/' || c == '\\'

/-- Whether a character ends the address of a kind of scheme. -/
def endsAddress (kind : SchemeKind) (c : Char) : Bool :=
  c == '/' || c == '?' || c == '#' || (kind != .other && c == '\\')

/-- The text without the controls and spaces around it and without tabs and line breaks. -/
def cleaned (text : List Char) : List Char :=
  let isOuter := fun c : Char => decide (c.toNat ≤ 32)
  (Text.dropEndWhile isOuter (text.dropWhile isOuter)).filter fun c =>
    c != '\t' && c != '\n' && c != '\r'

/-- Whether a character may occur in a scheme after its first one. -/
def isSchemeChar (c : Char) : Bool :=
  c.isAlpha || c.isDigit || c == '+' || c == '-' || c == '.'

/-- The scheme in front of a colon, in lower case, and what follows. -/
def scheme? (text : List Char) : Option (List Char × List Char) :=
  if text.head?.any Char.isAlpha then
    match text.dropWhile isSchemeChar with
    | ':' :: rest => some (Text.asciiLowerChars (text.takeWhile isSchemeChar), rest)
    | _ => none
  else
    none

/-- The user in front of the last at sign of an address, and what follows. -/
def splitUser (address : List Char) : List Char × List Char :=
  match Text.afterLast? '@' address with
  | some host => (address.take (address.length - host.length - 1), host)
  | none => ([], address)

/-- The host in front of the first colon outside brackets, and what follows. -/
def splitHost (isInBrackets : Bool) : List Char → List Char × List Char
  | [] => ([], [])
  | c :: rest =>
      if c = ':' ∧ !isInBrackets then
        ([], c :: rest)
      else
        let isInBrackets := if c = '[' then true else if c = ']' then false else isInBrackets
        let (host, after) := splitHost isInBrackets rest
        (c :: host, after)

/-- The largest port. -/
def maxPort : Nat := 65535

/-- Checks the port behind a colon, up to a slash of either kind. -/
def checkPort (text : List Char) : Except UrlError Unit :=
  let port := text.takeWhile fun c => !isSlash c
  if port.all Text.isDigit && Text.decimalValue port ≤ maxPort then .ok () else .error .invalidPort

/-- Checks the host and port of an address. -/
def checkHostAndPort (kind : SchemeKind) (hasUser : Bool) (text : List Char) :
    Except UrlError Unit := do
  let (host, port) := splitHost false text
  if host.isEmpty then
    if kind = .web ∨ port.head? = some ':' then throw .emptyHost
  else if kind = .web then
    checkHost host
  else
    checkOpaqueHost host
  match port with
  | ':' :: port => checkPort port
  | _ => pure ()
  if host.isEmpty ∧ hasUser then throw .emptyHost

/-- Checks the address behind the slashes, and keeps what follows it. -/
def checkAddress (kind : SchemeKind) (text : List Char) : Except UrlError (List Char) := do
  let address := text.takeWhile fun c => !endsAddress kind c
  let rest := text.drop address.length
  let (user, host) := splitUser address
  if address.head? = some '@' ∧ host.isEmpty ∧ user.isEmpty ∧ !rest.isEmpty then
    throw .emptyHost
  checkHostAndPort kind (user != [] && user != [':']) host
  return rest

/-- Whether a text is the letter of a drive. -/
def isDriveLetter : List Char → Bool
  | [letter, mark] => letter.isAlpha && (mark == ':' || mark == '|')
  | _ => false

/-- Checks the host of a file, and keeps what follows it. -/
def checkFile (text : List Char) : Except UrlError (List Char) := do
  match text with
  | first :: second :: address =>
      if isSlash first && isSlash second then
        let host := address.takeWhile fun c => !endsAddress .file c
        if host.isEmpty || isDriveLetter host then
          return address
        else
          checkHost host
          return address.drop host.length
      else
        return text
  | _ => return text

/-- Reads a URL. -/
def parse (text : String) : Except UrlError Url := do
  match scheme? (cleaned text.toList) with
  | none => throw .relative
  | some (scheme, rest) =>
      let rest ←
        match schemeKind scheme, rest with
        | .web, rest => checkAddress .web (rest.dropWhile isSlash)
        | .file, rest => checkFile rest
        | .other, '/' :: '/' :: rest => checkAddress .other rest
        | .other, rest => pure rest
      return ⟨String.ofList scheme, rest⟩

/-! ## Request targets -/

/-- Whether a byte stands for itself in a path. -/
def isPathByte (byte : UInt8) : Bool :=
  32 < byte && byte < 127 && !("\"#<>?`\x7b\x7d".toUTF8.toList.contains byte)

/-- Whether a byte stands for itself in a query. -/
def isQueryByte (byte : UInt8) : Bool :=
  32 < byte && byte < 127 && !("\"#<>'".toUTF8.toList.contains byte)

/-- Whether a byte stands for itself in a form. -/
def isFormByte (byte : UInt8) : Bool :=
  Text.isUnreserved byte && byte != 126 || byte == 42

/-- The characters that stand for a text of which some bytes are kept. -/
def encodeChars (isKept : UInt8 → Bool) (text : List Char) : List Char :=
  (Text.utf8Bytes text).flatMap (Text.percentByte isKept)

/-- The characters that stand for a text in a form. -/
def formChars (text : String) : List Char :=
  (Text.utf8Bytes text.toList).flatMap fun byte =>
    if byte = 32 then ['+'] else Text.percentByte isFormByte byte

/-- The form of some pairs. -/
def formQuery (pairs : List (String × String)) : List Char :=
  ['&'].intercalate (pairs.map fun (name, value) => formChars name ++ '=' :: formChars value)

/-- A segment with its encoded dots decoded. -/
def plainDots : List Char → List Char
  | '%' :: '2' :: e :: rest =>
      if e = 'e' ∨ e = 'E' then '.' :: plainDots rest else '%' :: '2' :: e :: plainDots rest
  | c :: rest => c :: plainDots rest
  | [] => []

/-- The segments of a path without its dot segments.  A dot segment at the end leaves an empty
segment behind. -/
def resolveSegments (kept : List (List Char)) : List (List Char) → List (List Char)
  | [] => kept.reverse
  | segment :: rest =>
      let dots := plainDots segment
      let kept :=
        if dots = ['.', '.'] then kept.tail
        else if dots = ['.'] then kept
        else segment :: kept
      let isDots := dots = ['.', '.'] ∨ dots = ['.']
      resolveSegments (if rest.isEmpty ∧ isDots then [] :: kept else kept) rest

/-- The path of a URL. -/
def path (url : Url) : List Char :=
  let written := url.rest.takeWhile fun c => c != '?' && c != '#'
  let slashed := written.map fun c => if c = '\\' then '/' else c
  let segments := resolveSegments [] (Text.splitAll '/' (slashed.drop 1))
  segments.flatMap fun segment => '/' :: encodeChars isPathByte segment

/-- The query of a URL. -/
def query? (url : Url) : Option (List Char) :=
  match (url.rest.takeWhile (· != '#')).dropWhile (· != '?') with
  | '?' :: query => some (encodeChars isQueryByte query)
  | _ => none

/-- The target of a request to a URL with further pairs in its query. -/
def target (url : Url) (pairs : List (String × String)) : String :=
  let query? :=
    if pairs.isEmpty then
      url.query?
    else
      match url.query? with
      | none | some [] => some (formQuery pairs)
      | some query => some (query ++ '&' :: formQuery pairs)
  String.ofList (url.path ++ (query?.map ('?' :: ·)).getD [])

end Url
end ProbeWatch
