import ProbeWatch.Text.PrintTable
import ProbeWatch.Text.Lowercase
import ProbeWatch.Text.Hex

/-!
# Quoted text

The form in which a text is shown inside a description of a value: between quotes, with the
characters that have no visible form of their own written by number.
-/

namespace ProbeWatch.Text

/-- The lower-case hexadecimal digits of a number. -/
def hexDigits (value : Nat) : List Char :=
  (Nat.toDigits 16 value)

/-- Whether a quoted text writes the character by number. -/
def isUnprintable (c : Char) : Bool :=
  inRanges graphemeExtendRanges c.toNat || inRanges unprintableRanges c.toNat

/-- The characters that stand for one character of a quoted text. -/
def quoteChar (c : Char) : List Char :=
  if c = '\x00' then ['\\', '0']
  else if c = '\t' then ['\\', 't']
  else if c = '\r' then ['\\', 'r']
  else if c = '\n' then ['\\', 'n']
  else if c = '"' then ['\\', '"']
  else if c = '\\' then ['\\', '\\']
  else if isUnprintable c then ['\\', 'u', '\x7b'] ++ hexDigits c.toNat ++ ['\x7d']
  else [c]

/-- The text between quotes. -/
def quote (text : String) : String :=
  String.ofList ('"' :: (text.toList.flatMap quoteChar ++ ['"']))

end ProbeWatch.Text
