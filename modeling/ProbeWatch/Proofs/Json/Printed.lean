import ProbeWatch.Json.Node
import ProbeWatch.Proofs.Json.Spelling

/-!
# Printed values

A printed value whose numbers are integers of a machine word reads as the value itself, with the
members of its objects sorted.  The proof goes from the characters to the lexemes, from the lexemes
to the tree, and from the tree to the value.
-/

namespace ProbeWatch.Json

/-! ## Plain values -/

mutual

/-- Whether every number of a value is an integer of a machine word. -/
def isPlain : Json → Bool
  | .number (.integer value) => decide (IsWord value)
  | .number (.binary _) => false
  | .array items => arePlain items
  | .object members => membersPlain members
  | _ => true

/-- Whether all items of an array are plain. -/
def arePlain : List Json → Bool
  | [] => true
  | item :: items => isPlain item && arePlain items

/-- Whether the values of all members of an object are plain. -/
def membersPlain : List (String × Json) → Bool
  | [] => true
  | (_, value) :: members => isPlain value && membersPlain members

end

mutual

/-- How many containers are nested in a value. -/
def nesting : Json → Nat
  | .array items => itemsNesting items + 1
  | .object members => membersNesting members + 1
  | _ => 0

/-- How many containers are nested in an item of an array at most. -/
def itemsNesting : List Json → Nat
  | [] => 0
  | item :: items => max (nesting item) (itemsNesting items)

/-- How many containers are nested in a member of an object at most. -/
def membersNesting : List (String × Json) → Nat
  | [] => 0
  | (_, value) :: members => max (nesting value) (membersNesting members)

end

/-! ## From characters to lexemes -/

mutual

/-- The lexemes of a printed value. -/
def lexemesOf : Json → List Lexeme
  | .null => [.null]
  | .bool value => [.bool value]
  | .number (.integer value) => [.numeral (numeralOf value)]
  | .number (.binary _) => []
  | .string text => [.text (piecesOf text)]
  | .array [] => [.openArray, .closeArray]
  | .array (item :: items) => .openArray :: (lexemesOf item ++ itemLexemes items ++ [.closeArray])
  | .object [] => [.openObject, .closeObject]
  | .object ((key, value) :: members) =>
      .openObject :: .text (piecesOf key) :: .colon ::
        (lexemesOf value ++ memberLexemes members ++ [.closeObject])

/-- The lexemes of the items that follow the first one. -/
def itemLexemes : List Json → List Lexeme
  | [] => []
  | item :: items => .comma :: (lexemesOf item ++ itemLexemes items)

/-- The lexemes of the members that follow the first one. -/
def memberLexemes : List (String × Json) → List Lexeme
  | [] => []
  | (key, value) :: members =>
      .comma :: .text (piecesOf key) :: .colon :: (lexemesOf value ++ memberLexemes members)

end

theorem stops_compactItems (items : List Json) {rest : List Char} (stops : Stops rest) :
    Stops (compactItems items ++ rest) := by
  cases items with
  | nil => exact stops
  | cons item items => exact stops_cons (by decide) _

theorem stops_compactMembers (members : List (String × Json)) {rest : List Char}
    (stops : Stops rest) : Stops (compactMembers members ++ rest) := by
  cases members with
  | nil => exact stops
  | cons member members => exact stops_cons (by decide) _

theorem spells_member (key : String) {text : List Char} {lexemes : List Lexeme}
    (latter : Spells text lexemes) :
    Spells (quoted key.toList ++ ':' :: text) (.text (piecesOf key) :: .colon :: lexemes) :=
  .append (spells_quoted key) (.cons (fun _ => rfl) latter) fun _ _ => stops_cons (by decide) _

mutual

theorem spells_compactChars : ∀ json : Json, json.isPlain = true →
    Spells json.compactChars json.lexemesOf
  | .null, _ => spells_null
  | .bool true, _ => spells_true
  | .bool false, _ => spells_false
  | .number (.integer value), _ => spells_integer value
  | .string text, _ => spells_quoted text
  | .array [], _ => .cons (fun _ => rfl) (.cons (fun _ => rfl) .nil)
  | .array (item :: items), plain => by
      rw [isPlain, arePlain, Bool.and_eq_true] at plain
      rw [compactChars, lexemesOf]
      refine .cons (fun _ => rfl) (.append ?_ (.cons (fun _ => rfl) .nil) ?_)
      · exact .append (spells_compactChars item plain.1) (spells_compactItems items plain.2)
          fun _ stops => stops_compactItems items stops
      · exact fun rest _ => stops_cons (by decide) rest
  | .object [], _ => .cons (fun _ => rfl) (.cons (fun _ => rfl) .nil)
  | .object ((key, value) :: members), plain => by
      rw [isPlain, membersPlain, Bool.and_eq_true] at plain
      rw [compactChars, lexemesOf]
      refine .cons (fun _ => rfl) (spells_member key (.append ?_ (.cons (fun _ => rfl) .nil) ?_))
      · exact .append (spells_compactChars value plain.1) (spells_compactMembers members plain.2)
          fun _ stops => stops_compactMembers members stops
      · exact fun rest _ => stops_cons (by decide) rest

theorem spells_compactItems : ∀ items : List Json, arePlain items = true →
    Spells (compactItems items) (itemLexemes items)
  | [], _ => .nil
  | item :: items, plain => by
      rw [arePlain, Bool.and_eq_true] at plain
      rw [compactItems, itemLexemes]
      refine .cons (fun _ => rfl) ?_
      exact .append (spells_compactChars item plain.1) (spells_compactItems items plain.2)
        fun _ stops => stops_compactItems items stops

theorem spells_compactMembers : ∀ members : List (String × Json), membersPlain members = true →
    Spells (compactMembers members) (memberLexemes members)
  | [], _ => .nil
  | (key, value) :: members, plain => by
      rw [membersPlain, Bool.and_eq_true] at plain
      rw [compactMembers, memberLexemes]
      refine .cons (fun _ => rfl) (spells_member key ?_)
      exact .append (spells_compactChars value plain.1) (spells_compactMembers members plain.2)
        fun _ stops => stops_compactMembers members stops

end

/-! ## From lexemes to the tree -/

mutual

/-- The tree of a printed value. -/
def nodeOf : Json → Node
  | .null => .null
  | .bool value => .bool value
  | .number (.integer value) => .numeral (numeralOf value)
  | .number (.binary _) => .null
  | .string text => .text (piecesOf text)
  | .array items => .array (itemNodes items)
  | .object members => .object (memberNodes members)

/-- The trees of the items of an array. -/
def itemNodes : List Json → List Node
  | [] => []
  | item :: items => nodeOf item :: itemNodes items

/-- The trees of the members of an object. -/
def memberNodes : List (String × Json) → List (List Piece × Node)
  | [] => []
  | (key, value) :: members => (piecesOf key, nodeOf value) :: memberNodes members

end

theorem build_cons {builder next : Builder} {lexeme : Lexeme}
    (step : builder.step? lexeme = some next) (rest : List Lexeme) :
    (lexeme :: rest).foldlM Builder.step? builder = rest.foldlM Builder.step? next := by
  rw [List.foldlM_cons, step]
  rfl

theorem step?_openedArray {lexeme : Lexeme} (other : lexeme ≠ .closeArray) (frames : List Frame) :
    Builder.step? ⟨.openedArray, frames⟩ lexeme =
      Builder.step? ⟨.value, .items [] :: frames⟩ lexeme := by
  cases lexeme <;> first | rfl | exact absurd rfl other

theorem exists_lexemesOf : ∀ json : Json, json.isPlain = true →
    ∃ first more, json.lexemesOf = first :: more ∧ first ≠ .closeArray
  | .null, _ => ⟨_, _, rfl, by simp⟩
  | .bool _, _ => ⟨_, _, rfl, by simp⟩
  | .number (.integer _), _ => ⟨_, _, rfl, by simp⟩
  | .string _, _ => ⟨_, _, rfl, by simp⟩
  | .array [], _ => ⟨_, _, rfl, by simp⟩
  | .array (_ :: _), _ => ⟨_, _, rfl, by simp⟩
  | .object [], _ => ⟨_, _, rfl, by simp⟩
  | .object ((_, _) :: _), _ => ⟨_, _, rfl, by simp⟩

mutual

/-- The lexemes of a plain value complete its tree. -/
theorem build_value : ∀ (json : Json), json.isPlain = true → ∀ (frames : List Frame)
    (rest : List Lexeme),
    (json.lexemesOf ++ rest).foldlM Builder.step? ⟨.value, frames⟩ =
      rest.foldlM Builder.step? (Builder.complete json.nodeOf frames)
  | .null, _, _, _ => rfl
  | .bool _, _, _, _ => rfl
  | .number (.integer _), _, _, _ => rfl
  | .string _, _, _, _ => rfl
  | .array [], _, _, _ => rfl
  | .array (item :: items), plain, frames, rest => by
      rw [isPlain, arePlain, Bool.and_eq_true] at plain
      obtain ⟨first, more, split, other⟩ := exists_lexemesOf item plain.1
      have inner := build_value item plain.1 (.items [] :: frames)
        (itemLexemes items ++ .closeArray :: rest)
      have further := build_items items plain.2 [item.nodeOf] frames (.closeArray :: rest)
      have closed : Builder.step? ⟨.afterItem ((itemNodes items).reverse ++ [item.nodeOf]), frames⟩
          .closeArray = some (Builder.complete (nodeOf (.array (item :: items))) frames) := by
        rw [← List.reverse_cons]
        simp only [Builder.step?, List.reverse_reverse]
        rfl
      rw [lexemesOf, List.cons_append, List.append_assoc, List.append_assoc, List.singleton_append]
      refine (build_cons rfl _).trans ?_
      rw [split, List.cons_append, List.foldlM_cons, step?_openedArray other, ← List.foldlM_cons,
        ← List.cons_append, ← split, inner]
      exact further.trans (build_cons closed rest)
  | .object [], _, _, _ => rfl
  | .object ((key, value) :: members), plain, frames, rest => by
      rw [isPlain, membersPlain, Bool.and_eq_true] at plain
      have inner := build_value value plain.1 (.members [] (piecesOf key) :: frames)
        (memberLexemes members ++ .closeObject :: rest)
      have further := build_members members plain.2 [(piecesOf key, value.nodeOf)] frames
        (.closeObject :: rest)
      have closed : Builder.step?
          ⟨.afterMember ((memberNodes members).reverse ++ [(piecesOf key, value.nodeOf)]), frames⟩
          .closeObject = some (Builder.complete (nodeOf (.object ((key, value) :: members))) frames) := by
        rw [← List.reverse_cons]
        simp only [Builder.step?, List.reverse_reverse]
        rfl
      rw [lexemesOf, List.cons_append, List.cons_append, List.cons_append, List.append_assoc,
        List.append_assoc, List.singleton_append]
      refine (build_cons rfl _).trans ((build_cons rfl _).trans ((build_cons rfl _).trans ?_))
      rw [inner]
      exact further.trans (build_cons closed rest)

theorem build_items : ∀ (items : List Json), arePlain items = true → ∀ (earlier : List Node)
    (frames : List Frame) (rest : List Lexeme),
    (itemLexemes items ++ rest).foldlM Builder.step? ⟨.afterItem earlier, frames⟩ =
      rest.foldlM Builder.step? ⟨.afterItem ((itemNodes items).reverse ++ earlier), frames⟩
  | [], _, _, _, _ => rfl
  | item :: items, plain, earlier, frames, rest => by
      rw [arePlain, Bool.and_eq_true] at plain
      have inner := build_value item plain.1 (.items earlier :: frames) (itemLexemes items ++ rest)
      have further := build_items items plain.2 (item.nodeOf :: earlier) frames rest
      rw [itemLexemes, itemNodes, List.reverse_cons, List.append_assoc, List.cons_append,
        List.append_assoc]
      refine (build_cons rfl _).trans ?_
      rw [inner]
      exact further

theorem build_members : ∀ (members : List (String × Json)), membersPlain members = true →
    ∀ (earlier : List (List Piece × Node)) (frames : List Frame) (rest : List Lexeme),
    (memberLexemes members ++ rest).foldlM Builder.step? ⟨.afterMember earlier, frames⟩ =
      rest.foldlM Builder.step? ⟨.afterMember ((memberNodes members).reverse ++ earlier), frames⟩
  | [], _, _, _, _ => rfl
  | (key, value) :: members, plain, earlier, frames, rest => by
      rw [membersPlain, Bool.and_eq_true] at plain
      have inner := build_value value plain.1 (.members earlier (piecesOf key) :: frames)
        (memberLexemes members ++ rest)
      have further := build_members members plain.2 ((piecesOf key, value.nodeOf) :: earlier) frames
        rest
      rw [memberLexemes, memberNodes, List.reverse_cons, List.append_assoc, List.cons_append,
        List.cons_append, List.cons_append, List.append_assoc]
      refine (build_cons rfl _).trans ((build_cons rfl _).trans ((build_cons rfl _).trans ?_))
      rw [inner]
      exact further

end

/-! ## From the tree to the value -/

mutual

theorem value?_nodeOf : ∀ (json : Json) (depth : Nat), json.isPlain = true → json.nesting ≤ depth →
    json.nodeOf.value? depth = some json.sorted
  | .null, _, _, _ => rfl
  | .bool _, _, _, _ => rfl
  | .number (.integer value), _, plain, _ => by
      rw [isPlain, decide_eq_true_eq] at plain
      rw [nodeOf, Node.value?, number?_numeralOf plain]
      rfl
  | .string text, _, _, _ => by
      rw [nodeOf, Node.value?, piecesText?_piecesOf, Option.map_some, String.ofList_toList]
      rfl
  | .array items, depth + 1, plain, deep => by
      have inner := itemValues?_itemNodes items depth plain (Nat.le_of_succ_le_succ deep)
      rw [nodeOf, Node.value?, inner]
      rfl
  | .object members, depth + 1, plain, deep => by
      have inner := memberValues?_memberNodes members depth plain (Nat.le_of_succ_le_succ deep)
      rw [nodeOf, Node.value?, inner]
      rfl

theorem itemValues?_itemNodes : ∀ (items : List Json) (depth : Nat), arePlain items = true →
    itemsNesting items ≤ depth → Node.itemValues? depth (itemNodes items) = some (sortedItems items)
  | [], _, _, _ => rfl
  | item :: items, depth, plain, deep => by
      rw [arePlain, Bool.and_eq_true] at plain
      rw [itemsNesting, Nat.max_le] at deep
      rw [itemNodes, Node.itemValues?, value?_nodeOf item depth plain.1 deep.1,
        itemValues?_itemNodes items depth plain.2 deep.2]
      rfl

theorem memberValues?_memberNodes : ∀ (members : List (String × Json)) (depth : Nat),
    membersPlain members = true → membersNesting members ≤ depth →
    Node.memberValues? depth (memberNodes members) = some (sortedMembers members)
  | [], _, _, _ => rfl
  | (key, value) :: members, depth, plain, deep => by
      rw [membersPlain, Bool.and_eq_true] at plain
      rw [membersNesting, Nat.max_le] at deep
      rw [memberNodes, Node.memberValues?, piecesText?_piecesOf,
        value?_nodeOf value depth plain.1 deep.1,
        memberValues?_memberNodes members depth plain.2 deep.2]
      change some ((String.ofList key.toList, value.sorted) :: sortedMembers members) = _
      rw [String.ofList_toList]
      rfl

end

theorem parse?_compactChars {json : Json} (plain : json.isPlain = true) :
    Node.parse? json.compactChars = some json.nodeOf := by
  have built := build_value json plain [] []
  rw [List.append_nil] at built
  rw [Node.parse?, (spells_compactChars json plain).lexemes?]
  exact congrArg (· >>= Builder.finish?) built

/-- A plain value that is not nested too deep reads from its compact text. -/
theorem parse?_compact {json : Json} (plain : json.isPlain = true)
    (shallow : json.nesting ≤ maxDepth) : parse? json.compact = some json.sorted := by
  rw [parse?, compact, String.toList_ofList, parse?_compactChars plain]
  exact value?_nodeOf json maxDepth plain shallow

end ProbeWatch.Json
