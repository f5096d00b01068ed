import ProbeWatch.Json.Basic

/-!
# Reading records

A record is read from an object, field by field by name, or from an array, field by field in
declaration order.  Unknown members of an object are ignored; an array has no items beyond the last
field.  Each reader answers nothing for a value of another type or out of range.
-/

namespace ProbeWatch.Json

/-- Reads a truth value. -/
def bool? : Json → Option Bool
  | .bool value => some value
  | _ => none

/-- The bound of the integers of a signed word. -/
def int64Bound : Int := 9223372036854775808

/-- Reads an integer of a signed word. -/
def int64? (json : Json) : Option Int64 := do
  let value ← json.int?
  if -int64Bound ≤ value ∧ value < int64Bound then some (Int64.ofInt value) else none

/-- Reads an integer in `[0, bound)`. -/
def natBelow? (bound : Nat) (json : Json) : Option Nat := do
  let value ← json.int?
  if 0 ≤ value ∧ value < bound then some value.toNat else none

/-- Reads an integer of an unsigned word. -/
def uint64? (json : Json) : Option UInt64 := (json.natBelow? UInt64.size).map UInt64.ofNat

/-- Reads an integer of an unsigned half word. -/
def uint32? (json : Json) : Option UInt32 := (json.natBelow? UInt32.size).map UInt32.ofNat

/-- Reads an integer of an unsigned quarter word. -/
def uint16? (json : Json) : Option UInt16 := (json.natBelow? UInt16.size).map UInt16.ofNat

/-- Reads null as absence and everything else with `read`. -/
def optional? {α : Type} (read : Json → Option α) : Json → Option (Option α)
  | .null => some none
  | json => (read json).map some

/-- Reads every item of an array. -/
def list? {α : Type} (read : Json → Option α) : Json → Option (List α)
  | .array items => items.mapM read
  | _ => none

/-- Reads the name of a variant: a string, or an object with that one key, under which null is. -/
def variant? : Json → Option String
  | .string name => some name
  | .object [(name, .null)] => some name
  | _ => none

/-- Where the fields of a record are found. -/
inductive Fields
  /-- By name in an object. -/
  | named (members : Dict Json)
  /-- By position in an array. -/
  | placed (items : List Json)

/-- The fields of a record that has at most `count` of them. -/
def fields? (count : Nat) : Json → Option Fields
  | .object members => some (.named members)
  | .array items => if items.length ≤ count then some (.placed items) else none
  | _ => none

namespace Fields

/-- The value of the field at a position and under a name. -/
def find? (fields : Fields) (position : Nat) (name : String) : Option Json :=
  match fields with
  | .named members => Dict.get? name members
  | .placed items => items[position]?

/-- Reads a field that has to be there. -/
def require {α : Type} (fields : Fields) (position : Nat) (name : String)
    (read : Json → Option α) : Option α :=
  fields.find? position name >>= read

/-- Reads a field that has a default. -/
def read {α : Type} (fields : Fields) (position : Nat) (name : String)
    (read : Json → Option α) (default : α) : Option α :=
  match fields.find? position name with
  | some json => read json
  | none => some default

end Fields
end ProbeWatch.Json
