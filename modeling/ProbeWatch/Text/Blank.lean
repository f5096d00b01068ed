/-!
# Blank characters

The Unicode `White_Space` property and the trimming built on it.  Every field that a person may
pad (tokens, credentials, environment variables, base URLs) is trimmed with this one rule.
-/

namespace ProbeWatch.Text

/-- The characters with the Unicode `White_Space` property. -/
def isBlank (c : Char) : Bool :=
  let code := c.toNat
  (9 ≤ code && code ≤ 13) || code == 0x20 || code == 0x85 || code == 0xA0 || code == 0x1680 ||
    (0x2000 ≤ code && code ≤ 0x200A) || code == 0x2028 || code == 0x2029 || code == 0x202F ||
    code == 0x205F || code == 0x3000

/-- The characters after the leading blanks. -/
def trimStart (text : List Char) : List Char :=
  text.dropWhile isBlank

/-- The characters before the trailing run of characters selected by `drop`. -/
def dropEndWhile (drop : Char → Bool) (text : List Char) : List Char :=
  (text.reverse.dropWhile drop).reverse

/-- The characters between the leading and the trailing blanks. -/
def trimChars (text : List Char) : List Char :=
  dropEndWhile isBlank (trimStart text)

/-- The text without its leading and trailing blanks. -/
def trim (text : String) : String :=
  String.ofList (trimChars text.toList)

@[simp]
theorem toList_trim (text : String) : (trim text).toList = trimChars text.toList := by
  simp [trim]

/-- Whether nothing but blanks is in the text. -/
def isAllBlank (text : String) : Bool :=
  (trim text).isEmpty

/-- The trimmed text, unless nothing is left of it. -/
def trimmed? (text : String) : Option String :=
  let kept := trim text
  if kept.isEmpty then none else some kept

/-- The parts of a text between the occurrences of one character, at least one. -/
def splitAll (separator : Char) : List Char → List (List Char)
  | [] => [[]]
  | c :: rest =>
      if c = separator then
        [] :: splitAll separator rest
      else
        match splitAll separator rest with
        | [] => [[c]]
        | part :: parts => (c :: part) :: parts

/-- The characters after the last occurrence of `separator`, if there is one. -/
def afterLast? (separator : Char) (text : List Char) : Option (List Char) :=
  if separator ∈ text then
    some (text.reverse.takeWhile (· != separator)).reverse
  else
    none

end ProbeWatch.Text
