import ProbeWatch.Text.CaseTable

/-!
# Lower case

Full Unicode lower-casing of a text.  Each character is mapped on its own, except that a capital
sigma at the end of a word takes the final form.
-/

namespace ProbeWatch.Text

/-- Whether a code point lies in one of the closed ranges. -/
def inRanges (ranges : List (Nat × Nat)) (code : Nat) : Bool :=
  ranges.any fun (first, last) => first ≤ code && code ≤ last

/-- Whether the character has the `Cased` property. -/
def isCased (c : Char) : Bool := inRanges casedRanges c.toNat

/-- Whether the character has the `Case_Ignorable` property. -/
def isCaseIgnorable (c : Char) : Bool := inRanges caseIgnorableRanges c.toNat

/-- The lower-case form of a character outside every context. -/
def lowerChar (c : Char) : List Char :=
  if c = '\u0130' then
    ['i', '\u0307']
  else
    let code := c.toNat
    match lowerRuns.find? fun (first, last, step, _) =>
        first ≤ code && code ≤ last && (code - first) % step == 0 with
    | some (first, _, _, lower) => [Char.ofNat (lower + (code - first))]
    | none => [c]

/-- Whether the nearest character that is not case-ignorable is cased. -/
def meetsCased (text : List Char) : Bool :=
  match text.dropWhile isCaseIgnorable with
  | c :: _ => isCased c
  | [] => false

/-- Lower-cases the rest of a text, given what precedes it in reverse. -/
def lowerAfter (before : List Char) : List Char → List Char
  | [] => []
  | c :: rest =>
      let form :=
        if c = '\u03A3' then
          if meetsCased before && !meetsCased rest then ['\u03C2'] else ['\u03C3']
        else
          lowerChar c
      form ++ lowerAfter (c :: before) rest

/-- The lower-case form of a text. -/
def lowercase (text : String) : String :=
  String.ofList (lowerAfter [] text.toList)

/-- The text with its ASCII letters in lower case. -/
def asciiLowerChars (text : List Char) : List Char :=
  text.map Char.toLower

end ProbeWatch.Text
