import ProbeWatch.Json.Numeral

/-!
# JSON lexemes

A text is read one character at a time.  Each character either continues the lexeme under way or
ends it; strings and numerals are kept as they were written and are interpreted later.
-/

namespace ProbeWatch.Json

/-- One element of a written string. -/
inductive Piece
  /-- A character, plain or named by a short escape. -/
  | char (c : Char)
  /-- A UTF-16 code unit named by its four hexadecimal digits. -/
  | unit (code : Nat)
deriving DecidableEq, Repr

/-- The text that the pieces of a string denote, unless a surrogate stands alone. -/
def piecesText? : List Piece → Option (List Char)
  | [] => some []
  | .char c :: rest => (piecesText? rest).map (c :: ·)
  | .unit high :: .unit low :: rest =>
      if 0xD800 ≤ high ∧ high < 0xDC00 then
        if 0xDC00 ≤ low ∧ low < 0xE000 then
          (piecesText? rest).map
            (Char.ofNat (0x10000 + (high - 0xD800) * 0x400 + (low - 0xDC00)) :: ·)
        else
          none
      else if 0xDC00 ≤ high ∧ high < 0xE000 then
        none
      else
        (piecesText? (.unit low :: rest)).map (Char.ofNat high :: ·)
  | .unit code :: rest =>
      if 0xD800 ≤ code ∧ code < 0xE000 then none
      else (piecesText? rest).map (Char.ofNat code :: ·)

/-- A lexical element of a JSON text. -/
inductive Lexeme
  | openObject
  | closeObject
  | openArray
  | closeArray
  | comma
  | colon
  | null
  | bool (value : Bool)
  | numeral (value : Numeral)
  | text (pieces : List Piece)
deriving DecidableEq, Repr

/-- Where in a numeral the reader stands. -/
inductive NumeralPart
  /-- After the minus sign. -/
  | sign
  /-- After a leading zero. -/
  | zero
  /-- Among the digits before the point. -/
  | whole
  /-- After the decimal point. -/
  | point
  /-- Among the digits after the point. -/
  | fraction
  /-- After the exponent mark. -/
  | mark
  /-- After the sign of the exponent. -/
  | markSign
  /-- Among the digits of the exponent. -/
  | exponent
deriving DecidableEq, Repr

/-- Whether a numeral may end here. -/
def NumeralPart.isComplete : NumeralPart → Bool
  | .zero | .whole | .fraction | .exponent => true
  | .sign | .point | .mark | .markSign => false

/-- What the reader is in the middle of. -/
inductive Reading
  /-- Between lexemes. -/
  | between
  /-- In a word of which these characters are still to come. -/
  | word (missing : List Char) (lexeme : Lexeme)
  /-- In a numeral. -/
  | numeral (part : NumeralPart) (held : Numeral)
  /-- In a string, with the pieces so far in reverse. -/
  | text (pieces : List Piece)
  /-- After a backslash. -/
  | escape (pieces : List Piece)
  /-- After a unit escape, with its digits so far. -/
  | unit (digits : List Char) (pieces : List Piece)
deriving DecidableEq, Repr

/-- The reader: the lexeme under way and those already read, in reverse. -/
structure Reader where
  /-- What the reader is in the middle of. -/
  reading : Reading
  /-- The finished lexemes, latest first. -/
  found : List Lexeme
deriving DecidableEq, Repr

namespace Reader

/-- The reader at the start of a text. -/
def start : Reader := ⟨.between, []⟩

/-- The reader after a finished lexeme. -/
def emit (lexeme : Lexeme) (found : List Lexeme) : Reader := ⟨.between, lexeme :: found⟩

/-- Whether the character may stand between lexemes. -/
def isSpace (c : Char) : Bool :=
  c == ' ' || c == '\t' || c == '\n' || c == '\r'

/-- The reader after the first character of a lexeme, or after a blank. -/
def open? (c : Char) (found : List Lexeme) : Option Reader :=
  if isSpace c then some ⟨.between, found⟩
  else if c = '\x7b' then some (emit .openObject found)
  else if c = '\x7d' then some (emit .closeObject found)
  else if c = '[' then some (emit .openArray found)
  else if c = ']' then some (emit .closeArray found)
  else if c = ',' then some (emit .comma found)
  else if c = ':' then some (emit .colon found)
  else if c = 'n' then some ⟨.word ['u', 'l', 'l'] .null, found⟩
  else if c = 't' then some ⟨.word ['r', 'u', 'e'] (.bool true), found⟩
  else if c = 'f' then some ⟨.word ['a', 'l', 's', 'e'] (.bool false), found⟩
  else if c = '"' then some ⟨.text [], found⟩
  else if c = '-' then some ⟨.numeral .sign ⟨true, [], [], none⟩, found⟩
  else if c = '0' then some ⟨.numeral .zero ⟨false, ['0'], [], none⟩, found⟩
  else if Text.isDigit c then some ⟨.numeral .whole ⟨false, [c], [], none⟩, found⟩
  else none

/-- The part of a numeral after one more character, unless the character does not belong to it.
The digits of each part are held in reverse. -/
def continue? (part : NumeralPart) (held : Numeral) (c : Char) :
    Option (NumeralPart × Numeral) :=
  let isMark := c == 'e' || c == 'E'
  match part with
  | .sign =>
      if c = '0' then some (.zero, { held with whole := [c] })
      else if Text.isDigit c then some (.whole, { held with whole := [c] })
      else none
  | .zero =>
      if c = '.' then some (.point, held)
      else if isMark then some (.mark, held)
      else none
  | .whole =>
      if Text.isDigit c then some (.whole, { held with whole := c :: held.whole })
      else if c = '.' then some (.point, held)
      else if isMark then some (.mark, held)
      else none
  | .point =>
      if Text.isDigit c then some (.fraction, { held with fraction := [c] }) else none
  | .fraction =>
      if Text.isDigit c then some (.fraction, { held with fraction := c :: held.fraction })
      else if isMark then some (.mark, held)
      else none
  | .mark =>
      if c = '+' then some (.markSign, { held with exponent? := some (false, []) })
      else if c = '-' then some (.markSign, { held with exponent? := some (true, []) })
      else if Text.isDigit c then some (.exponent, { held with exponent? := some (false, [c]) })
      else none
  | .markSign | .exponent =>
      if Text.isDigit c then
        some (.exponent,
          { held with exponent? := held.exponent?.map fun (sign, digits) => (sign, c :: digits) })
      else
        none

/-- The lexeme of a numeral whose digits were held in reverse. -/
def numeralLexeme (held : Numeral) : Lexeme :=
  .numeral
    { held with
      whole := held.whole.reverse
      fraction := held.fraction.reverse
      exponent? := held.exponent?.map fun (sign, digits) => (sign, digits.reverse) }

/-- The character that a short escape names. -/
def shortEscape? (c : Char) : Option Char :=
  if c = '"' ∨ c = '\\' ∨ c = '/' then some c
  else if c = 'b' then some '\x08'
  else if c = 'f' then some '\x0c'
  else if c = 'n' then some '\n'
  else if c = 'r' then some '\r'
  else if c = 't' then some '\t'
  else none

/-- The reader after one more character. -/
def step? (reader : Reader) (c : Char) : Option Reader :=
  match reader.reading with
  | .between => open? c reader.found
  | .word [] _ => none
  | .word (expected :: missing) lexeme =>
      if c = expected then
        if missing.isEmpty then some (emit lexeme reader.found)
        else some ⟨.word missing lexeme, reader.found⟩
      else
        none
  | .numeral part held =>
      match continue? part held c with
      | some (part, held) => some ⟨.numeral part held, reader.found⟩
      | none => if part.isComplete then open? c (numeralLexeme held :: reader.found) else none
  | .text pieces =>
      if c = '"' then some (emit (.text pieces.reverse) reader.found)
      else if c = '\\' then some ⟨.escape pieces, reader.found⟩
      else if c.toNat < 32 then none
      else some ⟨.text (.char c :: pieces), reader.found⟩
  | .escape pieces =>
      if c = 'u' then some ⟨.unit [] pieces, reader.found⟩
      else (shortEscape? c).map fun named => ⟨.text (.char named :: pieces), reader.found⟩
  | .unit digits pieces =>
      if Text.isHexDigit c then
        if digits.length < 3 then
          some ⟨.unit (digits ++ [c]) pieces, reader.found⟩
        else
          (Text.hexNumber? (digits ++ [c])).map fun code =>
            ⟨.text (.unit code :: pieces), reader.found⟩
      else
        none

/-- The lexemes of a text that ends here. -/
def finish? (reader : Reader) : Option (List Lexeme) :=
  match reader.reading with
  | .between => some reader.found.reverse
  | .numeral part held =>
      if part.isComplete then some (numeralLexeme held :: reader.found).reverse else none
  | _ => none

end Reader

/-- The lexemes of a text. -/
def lexemes? (text : List Char) : Option (List Lexeme) :=
  text.foldlM Reader.step? Reader.start >>= Reader.finish?

end ProbeWatch.Json
