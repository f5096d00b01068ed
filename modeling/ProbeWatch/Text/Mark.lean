import ProbeWatch.Text.Lowercase
import ProbeWatch.Text.MarkTable

/-!
# Marks

Characters that belong to the character before them.
-/

namespace ProbeWatch.Text

/-- Whether a character is a mark that takes no room of its own. -/
def isNonspacing (c : Char) : Bool := inRanges nonspacingRanges c.toNat

/-- Whether a character is a mark. -/
def isMark (c : Char) : Bool := isNonspacing c || inRanges spacingRanges c.toNat

end ProbeWatch.Text
