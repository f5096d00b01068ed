import ProbeWatch.Url.FoldingTable
import ProbeWatch.Url.Joiner
import ProbeWatch.Url.NameTable
import ProbeWatch.Url.Punycode

/-!
# Labels

A name consists of labels between dots.  Its characters are folded first, which takes away
differences of case and form and may bring in dots; then the text is composed.  A label that travels
encoded must stand for a text that folding and composing would leave alone.
-/

namespace ProbeWatch.Url

/-- Whether a character is ASCII. -/
def isAscii (c : Char) : Bool := c.toNat < 128

/-- Whether an ASCII character may not occur in a name. -/
def isDenied (c : Char) : Bool :=
  c.toNat ≤ 32 || c.toNat == 127 || "%#/:<>?@[\\]^|".toList.contains c

/-- What a character stands for in a name. -/
def fold? (c : Char) : Option (List Char) :=
  let code := c.toNat
  if code < 128 then some [c.toLower]
  else if Text.inRanges forbiddenRanges code then none
  else if Text.inRanges droppedRanges code then some []
  else
    match foldedRuns.find? fun (first, last, _) => first ≤ code && code ≤ last with
    | some (first, _, target) => some [Char.ofNat (target + (code - first))]
    | none =>
        match foldedBlocks.find? fun (first, last, _) => first ≤ code && code ≤ last with
        | some (first, _, texts) => (Text.splitAll ' ' texts.toList)[code - first]?
        | none => some (Text.lowerChar c)

/-- The text that a text stands for in a name. -/
def foldText? (text : List Char) : Option (List Char) :=
  (text.mapM fold?).map fun folded => Text.composed folded.flatten

/-- The length that a label beyond ASCII may have. -/
def maxLabelLength : Nat := 1000

/-- The length that the text of an encoded label may have. -/
def maxEncodedLength : Nat := 2000

/-- The mark in front of an encoded label. -/
def encodedMark : List Char := ['x', 'n', '-', '-']

/-- Whether a label may be part of a name: it has no character that may not occur, its marks and
joiners are in their places, and it is not too long. -/
def isSound (label : List Char) : Bool :=
  !label.any isDenied && !label.head?.any Text.isMark && joinersFit [] label &&
    (label.all isAscii || label.length ≤ maxLabelLength)

/-- The label that a text without the mark in front of it encodes. -/
def decodedLabel? (text : List Char) : Option (List Char) := do
  let label ← if text.length ≤ maxEncodedLength then Punycode.decode? text else none
  let isSettled := label.all (fun c => fold? c == some [c]) && Text.composed label == label
  if !label.all isAscii && isSettled && isSound label then some label else none

/-- The label that a folded text without dots stands for. -/
def label? (text : List Char) : Option (List Char) :=
  if encodedMark.isPrefixOf text then decodedLabel? (text.drop encodedMark.length)
  else if isSound text then some text
  else none

/-- The labels that a part of a name between two dots stands for. -/
def labels? (part : List Char) : Option (List (List Char)) := do
  let text ← foldText? part
  (Text.splitAll '.' text).mapM label?

end ProbeWatch.Url
