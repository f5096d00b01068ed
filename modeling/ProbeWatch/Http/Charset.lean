import ProbeWatch.Text.Blank
import ProbeWatch.Text.Lowercase
import ProbeWatch.Text.Utf8

/-!
# Character sets of replies

The body of a reply is read in the character set that its headers name.  A mark at its start
overrules the headers and is dropped.
-/

namespace ProbeWatch

/-- The character sets that a body may be read in. -/
inductive Charset
  | utf8
  /-- Latin letters, one byte each. -/
  | western
  | utf16Little
  | utf16Big
deriving DecidableEq, Inhabited

namespace Charset

/-- The names of the western character set. -/
def westernNames : List String :=
  ["ansi_x3.4-1968", "ascii", "cp1252", "cp819", "csisolatin1", "ibm819", "iso-8859-1",
    "iso-ir-100", "iso8859-1", "iso88591", "iso_8859-1", "iso_8859-1:1987", "l1", "latin1",
    "us-ascii", "windows-1252", "x-cp1252"]

/-- The names of little-endian UTF-16. -/
def littleNames : List String :=
  ["csunicode", "iso-10646-ucs-2", "ucs-2", "unicode", "unicodefeff", "utf-16", "utf-16le"]

/-- The names of big-endian UTF-16. -/
def bigNames : List String := ["unicodefffe", "utf-16be"]

/-- The character set of a name; any other name stands for UTF-8. -/
def ofName (name : String) : Charset :=
  let name := String.ofList (Text.asciiLowerChars name.toList)
  if westernNames.contains name then .western
  else if littleNames.contains name then .utf16Little
  else if bigNames.contains name then .utf16Big
  else .utf8

/-- The value of the `charset` parameter of a content type. -/
def parameter? (contentType : String) : Option String :=
  (Text.splitAll ';' contentType.toList).tail.findSome? fun part =>
    match Text.splitAll '=' (Text.trimChars part) with
    | name :: value :: _ =>
        if Text.asciiLowerChars name = "charset".toList then
          some (String.ofList (value.filter (· != '"')))
        else
          none
    | _ => none

/-- The characters of the bytes from 128 to 159 in the western character set. -/
def westernExtras : List Nat :=
  [0x20AC, 0x81, 0x201A, 0x192, 0x201E, 0x2026, 0x2020, 0x2021, 0x2C6, 0x2030, 0x160, 0x2039,
    0x152, 0x8D, 0x17D, 0x8F, 0x90, 0x2018, 0x2019, 0x201C, 0x201D, 0x2022, 0x2013, 0x2014, 0x2DC,
    0x2122, 0x161, 0x203A, 0x153, 0x9D, 0x17E, 0x178]

/-- The character of a byte in the western character set. -/
def westernChar (byte : UInt8) : Char :=
  let code := byte.toNat
  if 128 ≤ code ∧ code < 160 then Char.ofNat (westernExtras.getD (code - 128) code)
  else Char.ofNat code

/-- The units of UTF-16 bytes; a byte that is left over at the end is no unit. -/
def units (isBig : Bool) : List UInt8 → List (Option Nat)
  | first :: second :: rest =>
      some (if isBig then first.toNat * 256 + second.toNat else second.toNat * 256 + first.toNat) ::
        units isBig rest
  | [_] => [none]
  | [] => []

/-- Whether a unit is the first half of a pair. -/
def isHigh (unit : Nat) : Bool := 0xD800 ≤ unit && unit < 0xDC00

/-- Whether a unit is the second half of a pair. -/
def isLow (unit : Nat) : Bool := 0xDC00 ≤ unit && unit < 0xE000

/-- The text of UTF-16 units. -/
def ofUnits : List (Option Nat) → List Char
  | some high :: some low :: rest =>
      if isHigh high && isLow low then
        Char.ofNat (0x10000 + (high - 0xD800) * 0x400 + (low - 0xDC00)) :: ofUnits rest
      else
        (if isHigh high || isLow high then Text.replacement else Char.ofNat high) ::
          ofUnits (some low :: rest)
  | some unit :: rest =>
      (if isHigh unit || isLow unit then Text.replacement else Char.ofNat unit) :: ofUnits rest
  | none :: rest => Text.replacement :: ofUnits rest
  | [] => []

/-- The text of bytes in a character set. -/
def read (bytes : List UInt8) : Charset → List Char
  | .utf8 => Text.ofUtf8 bytes
  | .western => bytes.map westernChar
  | .utf16Little => ofUnits (units false bytes)
  | .utf16Big => ofUnits (units true bytes)

/-- The character set that a mark at the start of some bytes tells of, and the bytes after it. -/
def marked? : List UInt8 → Option (Charset × List UInt8)
  | 0xEF :: 0xBB :: 0xBF :: rest => some (.utf8, rest)
  | 0xFF :: 0xFE :: rest => some (.utf16Little, rest)
  | 0xFE :: 0xFF :: rest => some (.utf16Big, rest)
  | _ => none

/-- The text of a body whose headers tell of a content type or not. -/
def readBody (contentType : Option String) (bytes : List UInt8) : String :=
  let named := ((contentType.bind parameter?).map ofName).getD .utf8
  let (charset, bytes) := (marked? bytes).getD (named, bytes)
  String.ofList (charset.read bytes)

end Charset
end ProbeWatch
