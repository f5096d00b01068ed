import ProbeWatch.Json.Node
import ProbeWatch.Json.Printer
import ProbeWatch.Moment.Reader

/-!
# State files

A state file is a JSON record of a format version and the entries; an entry is a record of a text
and the moment of its last change.  Files are written indented, with the entries in the order of
their keys.  A record is read from an object, whose known fields must not repeat, or from an array
of exactly its fields.
-/

namespace ProbeWatch.StateFile

/-- A text that is held under a key. -/
structure StoredText where
  /-- The text. -/
  value : String
  /-- When it was last changed. -/
  updatedAt : Moment
deriving DecidableEq, Inhabited

/-- The version of the format that is written. -/
def version : String := "1.0"

/-- The record of one entry. -/
def entryJson (stored : StoredText) : Json :=
  .object [("value", .string stored.value), ("updated_at", .string stored.updatedAt.zuluText)]

/-- The record of a state file. -/
def fileJson (entries : Dict StoredText) : Json :=
  .object
    [("version", .string version),
      ("entries", .object (entries.map fun (key, stored) => (key, entryJson stored)))]

/-- The text of a state file. -/
def encode (entries : Dict StoredText) : String :=
  (fileJson entries).indented

/-- The members of an object with their keys as texts. -/
def members? (members : List (List Json.Piece × Json.Node)) : Option (List (String × Json.Node)) :=
  members.mapM fun (key, node) => (Json.piecesText? key).map fun key => (String.ofList key, node)

/-- The only value under a key. -/
def single? (key : String) (members : List (String × Json.Node)) : Option Json.Node :=
  match members.filter (fun member => member.1 == key) with
  | [(_, node)] => some node
  | _ => none

/-- The values of the two fields of a record. -/
def pair? (first second : String) : Json.Node → Option (Json.Node × Json.Node)
  | .array [left, right] => some (left, right)
  | .object members => do
      let members ← members? members
      return (← single? first members, ← single? second members)
  | _ => none

/-- Reads the record of one entry. -/
def readStored? (node : Json.Node) : Option StoredText := do
  let (value, updatedAt) ← pair? "value" "updated_at" node
  return ⟨← value.text?, ← updatedAt.text? >>= Moment.read?⟩

/-- Reads the entries of a state file, in which a later entry replaces an earlier one. -/
def readEntries? : Json.Node → Option (Dict StoredText)
  | .object members => do
      let members ← members? members
      let entries ← members.mapM fun (key, node) => (readStored? node).map fun entry => (key, entry)
      return Dict.ofPairs entries
  | _ => none

/-- The entries of the text of a state file, whatever its version. -/
def decode? (text : String) : Option (Dict StoredText) := do
  let (version, entries) ← pair? "version" "entries" (← Json.Node.parse? text.toList)
  let _ ← version.text?
  readEntries? entries

end ProbeWatch.StateFile
