import ProbeWatch.Text.Mark
import ProbeWatch.Url.DirectionTable

/-!
# Writing directions

A name with characters that are written from right to left may be shown in an order other than its
own.  Its labels must be such that no label runs into another one when that happens.
-/

namespace ProbeWatch.Url

/-- How a character is written. -/
inductive Direction
  | leftToRight
  | rightToLeft
  | europeanNumber
  | arabicNumber
  /-- As the characters around it. -/
  | neutral
  /-- As the character before it. -/
  | mark
deriving DecidableEq, Inhabited

namespace Direction

/-- The direction of an ASCII character. -/
def ofAscii (c : Char) : Direction :=
  if c.isAlpha then .leftToRight else if c.isDigit then .europeanNumber else .neutral

/-- The direction of a character. -/
def ofChar (c : Char) : Direction :=
  let code := c.toNat
  if code < 128 then ofAscii c
  else if Text.inRanges rightToLeftRanges code then .rightToLeft
  else if Text.inRanges arabicNumberRanges code then .arabicNumber
  else if Text.inRanges europeanNumberRanges code then .europeanNumber
  else if Text.inRanges neutralRanges code then .neutral
  else if Text.isNonspacing c && !Text.inRanges leftToRightMarkRanges code then .mark
  else .leftToRight

/-- Whether a character of this direction turns a name into one that may be shown in another
order. -/
def isTurning (direction : Direction) : Bool :=
  direction = .rightToLeft || direction = .arabicNumber

/-- The direction of the last character that is no mark. -/
def last? (label : List Direction) : Option Direction :=
  label.reverse.find? (· ≠ .mark)

/-- Whether a label from left to right keeps together. -/
def isLeftAligned (label : List Direction) : Bool :=
  !label.any isTurning &&
    (last? label).any fun last => last = .leftToRight || last = .europeanNumber

/-- Whether a label from right to left keeps together. -/
def isRightAligned (label : List Direction) : Bool :=
  !label.contains .leftToRight &&
    !(label.contains .europeanNumber && label.contains .arabicNumber) &&
    (last? label).any fun last => last ≠ .neutral

/-- Whether a label keeps together. -/
def isAligned (label : List Direction) : Bool :=
  match label with
  | [] => true
  | .leftToRight :: _ => isLeftAligned label
  | .rightToLeft :: _ => isRightAligned label
  | _ => false

end Direction

/-- Whether the labels of a name may stand side by side. -/
def directionsFit (labels : List (List Char)) : Bool :=
  let directions := labels.map fun label => label.map Direction.ofChar
  !directions.any (fun label => label.any Direction.isTurning) ||
    directions.all Direction.isAligned

end ProbeWatch.Url
