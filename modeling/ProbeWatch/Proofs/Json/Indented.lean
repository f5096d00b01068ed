import ProbeWatch.Proofs.Json.Printed

/-!
# Indented values

An indented text has the lexemes of the compact one, as only blanks are added between them; so it
has the same tree.
-/

namespace ProbeWatch.Json

theorem Spells.newLine {text : List Char} {lexemes : List Lexeme} (level : Nat)
    (latter : Spells text lexemes) : Spells (Json.newLine level ++ text) lexemes := by
  have blanks (count : Nat) : Spells (List.replicate count ' ' ++ text) lexemes := by
    induction count with
    | zero => exact latter
    | succ count ih => exact .space rfl ih
  exact .space rfl (blanks _)

/-- The line break in front of the end of a container, and the end. -/
theorem spells_close {c : Char} {lexeme : Lexeme}
    (closes : ∀ found, Reader.open? c found = some (Reader.emit lexeme found)) (level : Nat) :
    Spells (newLine level ++ [c]) [lexeme] :=
  .newLine level (.cons closes .nil)

theorem stops_indentedItems (level : Nat) (items : List Json) {rest : List Char}
    (stops : Stops rest) : Stops (indentedItems level items ++ rest) := by
  cases items with
  | nil => exact stops
  | cons item items => exact stops_cons (by decide) _

theorem stops_indentedMembers (level : Nat) (members : List (String × Json)) {rest : List Char}
    (stops : Stops rest) : Stops (indentedMembers level members ++ rest) := by
  cases members with
  | nil => exact stops
  | cons member members => exact stops_cons (by decide) _

theorem spells_indentedMember (level : Nat) (key : String) {text : List Char}
    {lexemes : List Lexeme} (latter : Spells text lexemes) :
    Spells (newLine level ++ quoted key.toList ++ ':' :: ' ' :: text)
      (.text (piecesOf key) :: .colon :: lexemes) := by
  rw [List.append_assoc]
  exact .newLine level (spells_member key (.space rfl latter))

mutual

theorem spells_indentedChars : ∀ (level : Nat) (json : Json), json.isPlain = true →
    Spells (json.indentedChars level) json.lexemesOf
  | _, .null, _ => spells_null
  | _, .bool true, _ => spells_true
  | _, .bool false, _ => spells_false
  | _, .number (.integer value), _ => spells_integer value
  | _, .string text, _ => spells_quoted text
  | _, .array [], _ => .cons (fun _ => rfl) (.cons (fun _ => rfl) .nil)
  | level, .array (item :: items), plain => by
      rw [isPlain, arePlain, Bool.and_eq_true] at plain
      have first := spells_indentedChars (level + 1) item plain.1
      have further := spells_indentedItems (level + 1) items plain.2
      rw [indentedChars, lexemesOf, List.append_assoc _ (newLine level), List.append_assoc (newLine _)]
      refine .cons (fun _ => rfl) (.append (.newLine _ ?_) (spells_close (fun _ => rfl) level) ?_)
      · exact .append first further fun _ stops => stops_indentedItems _ items stops
      · exact fun _ _ => stops_cons (by decide) _
  | _, .object [], _ => .cons (fun _ => rfl) (.cons (fun _ => rfl) .nil)
  | level, .object ((key, value) :: members), plain => by
      rw [isPlain, membersPlain, Bool.and_eq_true] at plain
      have first := spells_indentedChars (level + 1) value plain.1
      have further := spells_indentedMembers (level + 1) members plain.2
      rw [indentedChars, lexemesOf, List.append_assoc _ (newLine level)]
      refine .cons (fun _ => rfl) (spells_indentedMember _ key
        (.append ?_ (spells_close (fun _ => rfl) level) ?_))
      · exact .append first further fun _ stops => stops_indentedMembers _ members stops
      · exact fun _ _ => stops_cons (by decide) _

theorem spells_indentedItems : ∀ (level : Nat) (items : List Json), arePlain items = true →
    Spells (indentedItems level items) (itemLexemes items)
  | _, [], _ => .nil
  | level, item :: items, plain => by
      rw [arePlain, Bool.and_eq_true] at plain
      rw [indentedItems, itemLexemes, List.append_assoc]
      refine .cons (fun _ => rfl) (.newLine level (.append ?_ ?_ ?_))
      · exact spells_indentedChars level item plain.1
      · exact spells_indentedItems level items plain.2
      · exact fun _ stops => stops_indentedItems level items stops

theorem spells_indentedMembers : ∀ (level : Nat) (members : List (String × Json)),
    membersPlain members = true → Spells (indentedMembers level members) (memberLexemes members)
  | _, [], _ => .nil
  | level, (key, value) :: members, plain => by
      rw [membersPlain, Bool.and_eq_true] at plain
      rw [indentedMembers, memberLexemes]
      refine .cons (fun _ => rfl) (spells_indentedMember level key (.append ?_ ?_ ?_))
      · exact spells_indentedChars level value plain.1
      · exact spells_indentedMembers level members plain.2
      · exact fun _ stops => stops_indentedMembers level members stops

end

/-- The tree of an indented text. -/
theorem parse?_indented {json : Json} (plain : json.isPlain = true) :
    Node.parse? json.indented.toList = some json.nodeOf := by
  have built := build_value json plain [] []
  rw [List.append_nil] at built
  rw [indented, String.toList_ofList, Node.parse?, (spells_indentedChars 0 json plain).lexemes?]
  exact congrArg (· >>= Builder.finish?) built

end ProbeWatch.Json
