import ProbeWatch.Decimal.Shortest
import ProbeWatch.Dict

/-!
# JSON values

A number is either an integer or a double.  An object is a list of members; every object that was
read, and every `sorted` one, holds its members in increasing order of their keys.
-/

namespace ProbeWatch

/-- A JSON number. -/
inductive Number
  /-- A number without fraction or exponent that fits a signed or unsigned machine word. -/
  | integer (value : Int)
  /-- Any other finite number. -/
  | binary (value : Binary64)
deriving DecidableEq, Repr

/-- The text of a number. -/
def Number.render : Number → String
  | .integer value => toString value
  | .binary value => value.render .json

/-- A JSON value. -/
inductive Json
  | null
  | bool (value : Bool)
  | number (value : Number)
  | string (value : String)
  | array (items : List Json)
  | object (members : List (String × Json))
deriving Inhabited, BEq

namespace Json

/-- The JSON number of an integer. -/
def int (value : Int) : Json := .number (.integer value)

/-- The JSON number of a natural number. -/
def nat (value : Nat) : Json := .number (.integer value)

/-- A text, or null in its absence. -/
def ofString? : Option String → Json
  | some text => .string text
  | none => .null

/-- The member of an object under a key. -/
def member? (key : String) : Json → Option Json
  | .object members => Dict.get? key members
  | _ => none

/-- The members of an object. -/
def members? : Json → Option (Dict Json)
  | .object members => some members
  | _ => none

/-- The text of a string value. -/
def text? : Json → Option String
  | .string text => some text
  | _ => none

/-- The integer of a number without fraction. -/
def int? : Json → Option Int
  | .number (.integer value) => some value
  | _ => none

mutual

/-- The value with the members of every object in increasing order of their keys. -/
def sorted : Json → Json
  | .array items => .array (sortedItems items)
  | .object members => .object (Dict.ofPairs (sortedMembers members))
  | other => other

/-- The sorted items of an array. -/
def sortedItems : List Json → List Json
  | [] => []
  | item :: items => sorted item :: sortedItems items

/-- The members of an object with sorted values, in the order they had. -/
def sortedMembers : List (String × Json) → List (String × Json)
  | [] => []
  | (key, value) :: members => (key, sorted value) :: sortedMembers members

end

end Json
end ProbeWatch
