import ProbeWatch.Json.Lexeme

/-!
# Parsed JSON texts

A parsed text is a tree whose numerals and strings are still as they were written.  It is built by
a stack machine, one lexeme at a time; every grammatical text has a tree, however deep.
-/

namespace ProbeWatch.Json

/-- A parsed text. -/
inductive Node
  | null
  | bool (value : Bool)
  | numeral (value : Numeral)
  | text (pieces : List Piece)
  | array (items : List Node)
  | object (members : List (List Piece × Node))
deriving Inhabited

/-- A container that waits for one of its values. -/
inductive Frame
  /-- An array and its earlier items, in reverse. -/
  | items (earlier : List Node)
  /-- An object, its earlier members in reverse, and the key of the awaited value. -/
  | members (earlier : List (List Piece × Node)) (key : List Piece)
deriving Inhabited

/-- What may come next. -/
inductive Place
  /-- A value. -/
  | value
  /-- The first item of an array, or its end. -/
  | openedArray
  /-- A comma and another item, or the end of the array. -/
  | afterItem (items : List Node)
  /-- The first key of an object, or its end. -/
  | openedObject
  /-- A key. -/
  | key (members : List (List Piece × Node))
  /-- The colon behind a key. -/
  | colon (members : List (List Piece × Node)) (key : List Piece)
  /-- A comma and another member, or the end of the object. -/
  | afterMember (members : List (List Piece × Node))
  /-- Nothing. -/
  | done (node : Node)
deriving Inhabited

/-- The stack machine: what may come next, inside which open containers. -/
structure Builder where
  /-- What may come next. -/
  place : Place
  /-- The containers that wait, innermost first. -/
  frames : List Frame
deriving Inhabited

namespace Builder

/-- The machine before the first lexeme. -/
def start : Builder := ⟨.value, []⟩

/-- The machine after a finished value. -/
def complete (node : Node) : List Frame → Builder
  | [] => ⟨.done node, []⟩
  | .items earlier :: frames => ⟨.afterItem (node :: earlier), frames⟩
  | .members earlier key :: frames => ⟨.afterMember ((key, node) :: earlier), frames⟩

/-- The machine after the first lexeme of a value. -/
def open? (frames : List Frame) : Lexeme → Option Builder
  | .null => some (complete .null frames)
  | .bool value => some (complete (.bool value) frames)
  | .numeral value => some (complete (.numeral value) frames)
  | .text pieces => some (complete (.text pieces) frames)
  | .openArray => some ⟨.openedArray, frames⟩
  | .openObject => some ⟨.openedObject, frames⟩
  | _ => none

/-- The machine after one more lexeme. -/
def step? (builder : Builder) (lexeme : Lexeme) : Option Builder :=
  match builder.place, lexeme with
  | .value, lexeme => open? builder.frames lexeme
  | .openedArray, .closeArray => some (complete (.array []) builder.frames)
  | .openedArray, lexeme => open? (.items [] :: builder.frames) lexeme
  | .afterItem items, .comma => some ⟨.value, .items items :: builder.frames⟩
  | .afterItem items, .closeArray => some (complete (.array items.reverse) builder.frames)
  | .openedObject, .closeObject => some (complete (.object []) builder.frames)
  | .openedObject, .text key => some ⟨.colon [] key, builder.frames⟩
  | .key members, .text key => some ⟨.colon members key, builder.frames⟩
  | .colon members key, .colon => some ⟨.value, .members members key :: builder.frames⟩
  | .afterMember members, .comma => some ⟨.key members, builder.frames⟩
  | .afterMember members, .closeObject =>
      some (complete (.object members.reverse) builder.frames)
  | _, _ => none

/-- The tree of a text that ends here. -/
def finish? (builder : Builder) : Option Node :=
  match builder.place with
  | .done node => some node
  | _ => none

end Builder

namespace Node

/-- The tree of a text. -/
def parse? (text : List Char) : Option Node :=
  (lexemes? text >>= List.foldlM Builder.step? Builder.start) >>= Builder.finish?

/-- The text that a string node denotes. -/
def text? : Node → Option String
  | .text pieces => (piecesText? pieces).map String.ofList
  | _ => none

mutual

/-- The value of a tree in which at most `depth` containers are nested. -/
def value? (depth : Nat) : Node → Option Json
  | .null => some .null
  | .bool value => some (.bool value)
  | .numeral value => value.number?.map .number
  | .text pieces => (piecesText? pieces).map fun text => .string (String.ofList text)
  | .array items =>
      match depth with
      | 0 => none
      | depth + 1 => (itemValues? depth items).map .array
  | .object members =>
      match depth with
      | 0 => none
      | depth + 1 => (memberValues? depth members).map fun members => .object (Dict.ofPairs members)

/-- The values of the items of an array. -/
def itemValues? (depth : Nat) : List Node → Option (List Json)
  | [] => some []
  | item :: items => do
      let value ← value? depth item
      let values ← itemValues? depth items
      return value :: values

/-- The keys and values of the members of an object. -/
def memberValues? (depth : Nat) : List (List Piece × Node) → Option (List (String × Json))
  | [] => some []
  | (key, member) :: members => do
      let key ← piecesText? key
      let value ← value? depth member
      let values ← memberValues? depth members
      return (String.ofList key, value) :: values

end

end Node

/-- The most containers that may be nested in a text that is read as a value. -/
def maxDepth : Nat := 127

/-- The value that a text denotes. -/
def parse? (text : String) : Option Json :=
  Node.parse? text.toList >>= Node.value? maxDepth

end ProbeWatch.Json
