import ProbeWatch.Text.Blank
import ProbeWatch.Text.Hex
import ProbeWatch.Text.Lowercase

/-!
# Probe tokens

A probe token is the first label of a probe domain: ten hexadecimal digits, kept in lower case.
-/

namespace ProbeWatch

/-- A probe token. -/
structure Token where
  /-- The ten digits in lower case. -/
  text : String
deriving DecidableEq, Inhabited

namespace Token

/-- The number of digits in a token. -/
def length : Nat := 10

/-- What a person who entered no token is told. -/
def hint : String := "enter a token or use Generate to create a probe domain"

/-- The part of a trimmed domain in front of its first dot. -/
def label (domain : List Char) : List Char :=
  (Text.trimChars domain).takeWhile (· != '.')

/-- Whether the characters are the digits of a token. -/
def isDigits (label : List Char) : Bool :=
  label.length == length && label.all Text.isHexDigit

/-- The token that a domain starts with. -/
def parse? (domain : String) : Option Token :=
  let label := label domain.toList
  if isDigits label then some ⟨String.ofList (Text.asciiLowerChars label)⟩ else none

end Token
end ProbeWatch
