import ProbeWatch.Text.CanonicalTable

/-!
# Composed text

A character with marks can often be written in several ways.  The composed form is the same for all
of them: every character is spelled out, the marks after a character are put in their order, and
then each character takes in the marks with which it makes up another character.  The tables cover
folded text.
-/

namespace ProbeWatch.Text

/-- The place of a mark among the marks of a character.  Whatever has no such place has zero. -/
def markOrder (c : Char) : Nat :=
  match orderRuns.find? fun (first, last, _) => first ≤ c.toNat && c.toNat ≤ last with
  | some (_, _, order) => order
  | none => 0

/-- Whether a code is that of a Hangul syllable. -/
def isSyllable (code : Nat) : Bool := 0xAC00 ≤ code && code ≤ 0xD7A3

/-- The codes of the letters of a Hangul syllable. -/
def syllableLetters (code : Nat) : List Nat :=
  let index := code - 0xAC00
  let closing := if index % 28 = 0 then [] else [0x11A7 + index % 28]
  (0x1100 + index / 588) :: (0x1161 + index % 588 / 28) :: closing

/-- The Hangul syllable of two letters, or of a syllable that is open and the letter that closes
it. -/
def syllable? (first second : Nat) : Option Nat :=
  if 0x1100 ≤ first ∧ first ≤ 0x1112 ∧ 0x1161 ≤ second ∧ second ≤ 0x1175 then
    some (0xAC00 + (first - 0x1100) * 588 + (second - 0x1161) * 28)
  else if isSyllable first ∧ (first - 0xAC00) % 28 = 0 ∧ 0x11A8 ≤ second ∧ second ≤ 0x11C2 then
    some (first + (second - 0x11A7))
  else
    none

/-- The codes that spell out a character. -/
def spelling (code : Nat) : List Nat :=
  if isSyllable code then syllableLetters code
  else match spellings.find? fun (whole, _) => whole == code with
    | some (_, parts) => parts
    | none => [code]

/-- The character that two characters make up. -/
def compose? (first second : Char) : Option Char :=
  let parts := spelling first.toNat ++ [second.toNat]
  let whole := (syllable? first.toNat second.toNat).or
    ((spellings.find? fun (_, spelled) => spelled == parts).map (·.1))
  whole.map Char.ofNat

/-- A text, latest character first, with one more character.  A mark goes before the marks of a
higher place. -/
def placeMark (c : Char) : List Char → List Char
  | [] => [c]
  | last :: earlier =>
      if markOrder c ≠ 0 ∧ markOrder c < markOrder last then last :: placeMark c earlier
      else c :: last :: earlier

/-- The marks of a text, latest character first, in their order. -/
def orderMarks (text : List Char) : List Char :=
  text.foldl (fun earlier c => placeMark c earlier) []

/-- A text that is being composed. -/
structure Composition where
  /-- The characters that stay as they are, latest first. -/
  settled : List Char := []
  /-- The character that may still take in others. -/
  base : Option Char := none
  /-- The marks after it that it did not take in, latest first. -/
  marks : List Char := []

namespace Composition

/-- The text, latest character first. -/
def reversed (state : Composition) : List Char :=
  state.marks ++ state.base.toList ++ state.settled

/-- Whether nothing stands between the base and a character that might join it. -/
def reaches (state : Composition) (c : Char) : Bool :=
  state.marks.head?.all fun mark => markOrder mark < markOrder c

/-- The text with one more character. -/
def push (state : Composition) (c : Char) : Composition :=
  match state.base.bind fun base => if state.reaches c then compose? base c else none with
  | some joined => { state with base := some joined }
  | none =>
      if markOrder c = 0 then ⟨state.reversed, some c, []⟩
      else { state with marks := c :: state.marks }

end Composition

/-- The composed form of a text. -/
def composed (text : List Char) : List Char :=
  let spelled := text.flatMap fun c => (spelling c.toNat).map Char.ofNat
  ((orderMarks spelled).foldr (fun c state => state.push c) ({} : Composition)).reversed.reverse

end ProbeWatch.Text
