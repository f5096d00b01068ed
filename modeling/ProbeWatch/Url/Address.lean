import ProbeWatch.Text.Blank
import ProbeWatch.Text.Hex

/-!
# Numeric hosts

An IPv4 address has up to four numbers between dots, each decimal, octal behind a zero, or
hexadecimal behind `0x`; the last one fills all the bytes that are left.  An IPv6 address has eight
groups of hexadecimal digits between colons, of which two colons in a row leave out at least one,
and may end in an IPv4 address in place of two groups.
-/

namespace ProbeWatch.Url

/-- The number that octal digits denote. -/
def octalNumber? (digits : List Char) : Option Nat :=
  if digits.all fun c => '0' ≤ c && c ≤ '7' then
    some (digits.foldl (fun total digit => total * 8 + (digit.toNat - '0'.toNat)) 0)
  else
    none

/-- The value of one number of an IPv4 address. -/
def addressNumber? : List Char → Option Nat
  | [] => none
  | '0' :: 'x' :: digits => Text.hexNumber? digits
  | '0' :: 'X' :: digits => Text.hexNumber? digits
  | '0' :: digit :: digits => octalNumber? (digit :: digits)
  | digits => if digits.all Text.isDigit then some (Text.decimalValue digits) else none

/-- The numbers of an IPv4 address, of which a dot at the end begins none. -/
def addressParts (host : List Char) : List (List Char) :=
  let parts := Text.splitAll '.' host
  if 1 < parts.length ∧ parts.getLast? = some [] then parts.dropLast else parts

/-- Whether a host can only be an IPv4 address, as its last part is a number. -/
def endsInNumber (host : List Char) : Bool :=
  match (addressParts host).getLast? with
  | some [] => false
  | some last => last.all Text.isDigit || (addressNumber? last).isSome
  | none => false

/-- Whether a host is an IPv4 address. -/
def isIpv4 (host : List Char) : Bool :=
  match (addressParts host).mapM addressNumber? with
  | none => false
  | some numbers =>
      match numbers.reverse with
      | [] => false
      | last :: earlier =>
          earlier.length ≤ 3 && earlier.all (· ≤ 255) && last < Nat.pow 256 (4 - earlier.length)

/-- Whether a text is one group of an IPv6 address. -/
def isGroup (text : List Char) : Bool :=
  1 ≤ text.length && text.length ≤ 4 && text.all Text.isHexDigit

/-- Whether a text is one number of an IPv4 address at the end of an IPv6 address. -/
def isPlainByte (text : List Char) : Bool :=
  text.all Text.isDigit && (text == ['0'] || (text.head?.any (· != '0') && Text.decimalValue text ≤ 255))

/-- Whether a text is an IPv4 address at the end of an IPv6 address. -/
def isPlainIpv4 (text : List Char) : Bool :=
  let parts := Text.splitAll '.' text
  parts.length == 4 && parts.all isPlainByte

/-- The number of groups that a text stands for, which may end in an IPv4 address or not. -/
def groupCount? (mayEndInIpv4 : Bool) (text : List Char) : Option Nat :=
  if text.isEmpty then
    some 0
  else
    let parts := Text.splitAll ':' text
    if parts.all isGroup then
      some parts.length
    else if mayEndInIpv4 && parts.dropLast.all isGroup && (parts.getLast?.any isPlainIpv4) then
      some (parts.length + 1)
    else
      none

/-- The texts before and after the first pair of colons. -/
def splitAtGap? : List Char → Option (List Char × List Char)
  | ':' :: ':' :: rest => some ([], rest)
  | c :: rest => (splitAtGap? rest).map fun (before, after) => (c :: before, after)
  | [] => none

/-- Whether a text is an IPv6 address. -/
def isIpv6 (text : List Char) : Bool :=
  match splitAtGap? text with
  | none => groupCount? true text == some 8
  | some (before, after) =>
      match groupCount? false before, groupCount? true after with
      | some left, some right => left + right ≤ 7
      | _, _ => false

end ProbeWatch.Url
