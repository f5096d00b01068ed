import ProbeWatch.Text.Canonical
import ProbeWatch.Text.Mark
import ProbeWatch.Url.JoiningTable

/-!
# Joiners

Two characters without a shape of their own say whether the letters around them join.  In a name
they may follow a mark that takes away a vowel; the one that keeps letters apart may also stand
between letters that would join.
-/

namespace ProbeWatch.Url

/-- The character that makes letters join. -/
def joiner : Char := '\u200D'

/-- The character that keeps letters apart. -/
def separator : Char := '\u200C'

/-- Whether a character is a mark that takes away a vowel. -/
def isVirama (c : Char) : Bool := Text.markOrder c == 9

/-- Whether letters join over a character. -/
def isTransparent (c : Char) : Bool := Text.isNonspacing c || c.toNat == 0x1E94B

/-- Whether a letter joins the letter after it. -/
def joinsNext (c : Char) : Bool :=
  Text.inRanges dualRanges c.toNat || Text.inRanges nextRanges c.toNat

/-- Whether a letter joins the letter before it. -/
def joinsPrevious (c : Char) : Bool :=
  Text.inRanges dualRanges c.toNat || Text.inRanges previousRanges c.toNat

/-- Whether the letters around a place would join, given what is before it in reverse. -/
def joinsAcross (before after : List Char) : Bool :=
  (before.dropWhile isTransparent).head?.any joinsNext &&
    (after.dropWhile isTransparent).head?.any joinsPrevious

/-- Whether the joiners in the rest of a label are in their places, given what is before it in
reverse. -/
def joinersFit (before : List Char) : List Char → Bool
  | [] => true
  | c :: rest =>
      (if c = joiner then before.head?.any isVirama
        else if c = separator then before.head?.any isVirama || joinsAcross before rest
        else true) && joinersFit (c :: before) rest

end ProbeWatch.Url
