import ProbeWatch.Text.Percent
import ProbeWatch.Url.Address
import ProbeWatch.Url.Direction
import ProbeWatch.Url.Label

/-!
# Hosts

A host is an IPv6 address in brackets, an IPv4 address, or a name.  Before a name is looked at, its
triplets are decoded and its labels are folded.
-/

namespace ProbeWatch

/-- Why a text is not a URL. -/
inductive UrlError
  /-- There is no scheme. -/
  | relative
  /-- There is no host. -/
  | emptyHost
  /-- The host is not a name. -/
  | invalidName
  /-- The host has a character that it must not have. -/
  | invalidCharacter
  | invalidIpv4
  | invalidIpv6
  | invalidPort
deriving DecidableEq, Inhabited

/-- The text of an error. -/
def UrlError.message : UrlError → String
  | .relative => "relative URL without a base"
  | .emptyHost => "empty host"
  | .invalidName => "invalid international domain name"
  | .invalidCharacter => "invalid domain character"
  | .invalidIpv4 => "invalid IPv4 address"
  | .invalidIpv6 => "invalid IPv6 address"
  | .invalidPort => "invalid port number"

namespace Url

/-- The folded form of a name. -/
def hostName? (text : List Char) : Option (List Char) := do
  let labels := (← (Text.splitAll '.' text).mapM labels?).flatten
  if directionsFit labels then some (List.intercalate ['.'] labels) else none

/-- The text between brackets, if a host starts with one and ends with one. -/
def bracketed? : List Char → Option (List Char)
  | '[' :: rest => if rest.getLast? = some ']' then some rest.dropLast else none
  | _ => none

/-- Checks the address between brackets. -/
def checkBracketed (text : List Char) : Except UrlError Unit :=
  if (bracketed? text).any isIpv6 then .ok () else .error .invalidIpv6

/-- Checks the host of a web address. -/
def checkHost (text : List Char) : Except UrlError Unit :=
  if text.head? = some '[' then
    checkBracketed text
  else
    match String.fromUTF8? (Text.percentDecode text).toByteArray with
    | none => .error .invalidName
    | some decoded =>
        match hostName? decoded.toList with
        | none => .error .invalidName
        | some name =>
            if name.isEmpty then .error .emptyHost
            else if endsInNumber name && !isIpv4 name then .error .invalidIpv4
            else .ok ()

/-- Whether a character may not occur in the host of another address. -/
def isDeniedOpaque (c : Char) : Bool :=
  "\x00\t\n\r #/:<>?@[\\]^|".toList.contains c

/-- Checks the host of another address. -/
def checkOpaqueHost (text : List Char) : Except UrlError Unit :=
  if text.head? = some '[' then checkBracketed text
  else if text.any isDeniedOpaque then .error .invalidCharacter
  else .ok ()

end Url
end ProbeWatch
