import ProbeWatch.Json.Record
import ProbeWatch.Text.Hex
import ProbeWatch.Text.Quoted

/-!
# Credentials

An API key and where it came from.  Every description of a credential shows at most its first six
characters and its length.
-/

namespace ProbeWatch

/-- Where a credential came from. -/
inductive CredentialSource
  /-- The user entered it, now or in an earlier run. -/
  | stored
  /-- The environment supplies it as a default. -/
  | environment
  /-- There is no credential. -/
  | none
deriving DecidableEq, Inhabited

namespace CredentialSource

/-- The name on the wire. -/
def name : CredentialSource → String
  | .stored => "local"
  | .environment => "env"
  | .none => "none"

/-- The word in a description. -/
def word : CredentialSource → String
  | .stored => "Local"
  | .environment => "Env"
  | .none => "None"

/-- Reads a source. -/
def ofJson? (json : Json) : Option CredentialSource := do
  match ← json.variant? with
  | "local" => some .stored
  | "env" => some .environment
  | "none" => some .none
  | _ => Option.none

end CredentialSource

/-- An API key and its source. -/
structure Credential where
  /-- The key, empty when there is none. -/
  value : String
  source : CredentialSource
deriving DecidableEq, Inhabited

/-- Whether a text has the form of an API key: sixty-four hexadecimal digits. -/
def isApiKey (key : String) : Bool :=
  key.toList.length == 64 && key.toList.all Text.isHexDigit

/-- The first characters of a key and its length, or nothing for an empty key. -/
def maskApiKey (key : String) (shown : Nat) : String :=
  if key.isEmpty then ""
  else String.ofList (key.toList.take shown) ++ "...(len=" ++ toString key.length ++ ")"

namespace Credential

/-- The absence of a credential. -/
def absent : Credential := ⟨"", .none⟩

/-- Whether there is no key. -/
def isEmpty (credential : Credential) : Bool := credential.value.isEmpty

/-- The key with all but its first six characters hidden. -/
def masked (credential : Credential) : String := maskApiKey credential.value 6

/-- The masked key, or a word for its absence. -/
def shown (credential : Credential) : String :=
  if credential.isEmpty then "none" else credential.masked

/-- The description of a credential. -/
def describe (credential : Credential) : String :=
  "Credential \x7b value: " ++ Text.quote credential.masked ++ ", source: " ++
    credential.source.word ++ " \x7d"

/-- Reads a credential; no field has a default. -/
def ofJson? (json : Json) : Option Credential := do
  let fields ← json.fields? 2
  let value ← fields.require 0 "value" Json.text?
  let source ← fields.require 1 "source" CredentialSource.ofJson?
  return { value, source }

/-- Writes a credential. -/
def toJson (credential : Credential) : Json :=
  .object [("value", .string credential.value), ("source", .string credential.source.name)]

end Credential
end ProbeWatch
