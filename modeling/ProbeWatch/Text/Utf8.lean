import ProbeWatch.Text.Percent

/-!
# Reading UTF-8

Bytes that are not UTF-8 are read with a replacement character for each longest part that could
have begun a character.
-/

namespace ProbeWatch.Text

/-- What stands for bytes that are not a character. -/
def replacement : Char := '\uFFFD'

/-- The number of bytes that follow a first byte, and the least and the largest second byte. -/
def followers? (first : UInt8) : Option (Nat × UInt8 × UInt8) :=
  if 0xC2 ≤ first ∧ first ≤ 0xDF then some (1, 0x80, 0xBF)
  else if first = 0xE0 then some (2, 0xA0, 0xBF)
  else if first = 0xED then some (2, 0x80, 0x9F)
  else if 0xE1 ≤ first ∧ first ≤ 0xEF then some (2, 0x80, 0xBF)
  else if first = 0xF0 then some (3, 0x90, 0xBF)
  else if 0xF1 ≤ first ∧ first ≤ 0xF3 then some (3, 0x80, 0xBF)
  else if first = 0xF4 then some (3, 0x80, 0x8F)
  else none

/-- The value of a first byte without its length. -/
def leadValue (first : UInt8) (followers : Nat) : Nat :=
  first.toNat % Nat.pow 2 (6 - followers)

/-- A character that has begun: its value so far, how many bytes it still waits for, and the bounds
of the next one. -/
structure Partial where
  value : Nat
  awaited : Nat
  least : UInt8
  most : UInt8

/-- Begins with a byte: what is known of the text, in reverse, and the character that has begun. -/
def beginChar (text : List Char) (byte : UInt8) : List Char × Option Partial :=
  if byte < 0x80 then
    (Char.ofNat byte.toNat :: text, none)
  else
    match followers? byte with
    | some (count, least, most) => (text, some ⟨leadValue byte count, count, least, most⟩)
    | none => (replacement :: text, none)

/-- Reads one more byte. -/
def readByte (state : List Char × Option Partial) (byte : UInt8) : List Char × Option Partial :=
  match state with
  | (text, none) => beginChar text byte
  | (text, some begun) =>
      if begun.least ≤ byte ∧ byte ≤ begun.most then
        let value := begun.value * 64 + byte.toNat % 64
        if begun.awaited ≤ 1 then (Char.ofNat value :: text, none)
        else (text, some ⟨value, begun.awaited - 1, 0x80, 0xBF⟩)
      else
        beginChar (replacement :: text) byte

/-- The text of some bytes. -/
def ofUtf8 (bytes : List UInt8) : List Char :=
  let (text, begun) := bytes.foldl readByte ([], none)
  (if begun.isSome then replacement :: text else text).reverse

end ProbeWatch.Text
