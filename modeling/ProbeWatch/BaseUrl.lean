import ProbeWatch.Text.Blank

/-!
# Base URLs

The base URL that a person enters is brought into one form: absolute or rooted, without trailing
slashes, and with a path that ends in `/api`.
-/

namespace ProbeWatch.BaseUrl

/-- The path under which the backend serves its API. -/
def apiPath : List Char := ['/', 'a', 'p', 'i']

/-- The text without blanks around it and without the slashes at its end. -/
def stripped (raw : List Char) : List Char :=
  Text.dropEndWhile (· == '/') (Text.trimChars raw)

/-- Whether the URL names a host of its own. -/
def isAbsolute (url : List Char) : Bool :=
  "http://".toList.isPrefixOf url || "https://".toList.isPrefixOf url ||
    "//".toList.isPrefixOf url

/-- The URL with a slash in front, unless it names a host. -/
def rooted (url : List Char) : List Char :=
  if isAbsolute url || ['/'].isPrefixOf url then url else '/' :: url

/-- The URL with the API path at its end. -/
def withApiPath (url : List Char) : List Char :=
  if apiPath.isSuffixOf url then url else url ++ apiPath

/-- The normal form of the characters of a URL. -/
def normalChars (raw : List Char) : List Char :=
  let url := stripped raw
  if url.isEmpty then apiPath else withApiPath (rooted url)

/-- The normal form of a base URL. -/
def normalize (raw : String) : String :=
  String.ofList (normalChars raw.toList)

end ProbeWatch.BaseUrl
