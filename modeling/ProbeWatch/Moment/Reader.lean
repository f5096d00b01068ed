import ProbeWatch.Moment
import ProbeWatch.Text.Blank
import ProbeWatch.Text.Hex

/-!
# Reading moments

A moment is written as a date, a separator, a time of day and a zone, in the manner of RFC 3339.
Blanks may surround each part, digits may be missing, and the separator may be a space.
-/

namespace ProbeWatch.Moment

open Text (isBlank isDigit trimStart decimalValue)

/-- Reads one to `width` digits after optional blanks. -/
def readNumber? (width : Nat) (text : List Char) : Option (Nat × List Char) :=
  let text := trimStart text
  let digits := (text.takeWhile isDigit).take width
  if digits.isEmpty then none else some (decimalValue digits, text.drop digits.length)

/-- Reads a year: at most four digits, or a sign and any number of digits. -/
def readYear? (text : List Char) : Option (Int × List Char) :=
  match trimStart text with
  | '-' :: rest =>
      let digits := rest.takeWhile isDigit
      if digits.isEmpty then none
      else some (-(decimalValue digits : Int), rest.drop digits.length)
  | '+' :: rest =>
      let digits := rest.takeWhile isDigit
      if digits.isEmpty then none else some ((decimalValue digits : Int), rest.drop digits.length)
  | text => (readNumber? 4 text).map fun (value, rest) => ((value : Int), rest)

/-- Drops blanks and then one required character. -/
def readMark? (mark : Char) (text : List Char) : Option (List Char) :=
  match trimStart text with
  | c :: rest => if c = mark then some rest else none
  | [] => none

/-- Reads the fraction of a second in nanoseconds.  Digits after the ninth are ignored. -/
def readFraction? : List Char → Option (Nat × List Char)
  | '.' :: rest =>
      let digits := rest.takeWhile isDigit
      if digits.isEmpty then
        none
      else
        let kept := digits.take 9
        some (decimalValue kept * Nat.pow 10 (9 - kept.length), rest.drop digits.length)
  | text => some (0, text)

/-- Reads the sign of a zone offset. -/
def readSign? : List Char → Option (Bool × List Char)
  | '+' :: rest => some (false, rest)
  | '-' :: rest => some (true, rest)
  | '\u2212' :: rest => some (true, rest)
  | _ => none

/-- Reads a zone: a letter, a name, or an offset of two digits of hours and two of minutes; the
result is the offset in seconds. -/
def readZone? (text : List Char) : Option (Int × List Char) :=
  let text := trimStart text
  match text with
  | 'Z' :: rest => some (0, rest)
  | 'z' :: rest => some (0, rest)
  | _ =>
      if (text.take 3).map Char.toUpper = ['U', 'T', 'C'] then
        some (0, text.drop 3)
      else do
        let (negative, rest) ← readSign? text
        match rest with
        | tens :: units :: rest =>
            if isDigit tens && isDigit units then
              match rest.dropWhile (fun c => c == ':' || isBlank c) with
              | minuteTens :: minuteUnits :: rest =>
                  if isDigit minuteTens && minuteTens < '6' && isDigit minuteUnits then
                    let offset : Int := decimalValue [tens, units] * 3600 +
                      decimalValue [minuteTens, minuteUnits] * 60
                    some (if negative then -offset else offset, rest)
                  else
                    none
              | _ => none
            else
              none
        | _ => none

/-- Reads the separator of a date and a time of day. -/
def readSeparator? : List Char → Option (List Char)
  | c :: rest => if c = 'T' ∨ c = 't' ∨ c = ' ' then some rest else none
  | [] => none

/-- Whether the date is a day that moments can lie on. -/
def isDate (date : CivilDate) : Bool :=
  CivilDate.minYear ≤ date.year && date.year ≤ CivilDate.maxYear && 1 ≤ date.month &&
    date.month ≤ 12 && 1 ≤ date.day && date.day ≤ CivilDate.daysInMonth date.year date.month

/-- The moment of a date and a time of day at an offset.  A sixtieth second is a leap second. -/
def ofParts? (date : CivilDate) (hour minute second nanos : Nat) (offset : Int) : Option Moment :=
  let isTime := hour ≤ 23 && minute ≤ 59 && second ≤ 60 && offset.natAbs < 86400
  if isDate date && isTime then
    let clock : Int := hour * 3600 + minute * 60 + (if second == 60 then 59 else second : Nat)
    let moment : Moment :=
      ⟨date.toDays * secondsPerDay + clock - offset,
        if second == 60 then nanos + 1000000000 else nanos⟩
    if moment.isInRange then some moment else none
  else
    none

/-- Reads a moment. -/
def read? (source : String) : Option Moment := do
  let (year, text) ← readYear? source.toList
  let text ← readMark? '-' text
  let (month, text) ← readNumber? 2 text
  let text ← readMark? '-' text
  let (day, text) ← readNumber? 2 text
  let text ← readSeparator? text
  let (hour, text) ← readNumber? 2 text
  let text ← readMark? ':' text
  let (minute, text) ← readNumber? 2 text
  let text ← readMark? ':' text
  let (second, text) ← readNumber? 2 text
  let (nanos, text) ← readFraction? text
  let (offset, text) ← readZone? text
  if (trimStart text).isEmpty then ofParts? ⟨year, month, day⟩ hour minute second nanos offset
  else none

end ProbeWatch.Moment
