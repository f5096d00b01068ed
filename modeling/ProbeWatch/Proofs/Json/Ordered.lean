import ProbeWatch.Json.Node
import ProbeWatch.Proofs.Dict

/-!
# Values with their keys in order

Every value that is read from a text, and every sorted one, has its keys in order in all objects,
however deep they are nested.
-/

namespace ProbeWatch.Json

/-- Whether every object in a value has its keys in order. -/
inductive IsOrdered : Json → Prop
  | null : IsOrdered .null
  | bool (value : Bool) : IsOrdered (.bool value)
  | number (value : Number) : IsOrdered (.number value)
  | string (value : String) : IsOrdered (.string value)
  | array {items : List Json} (each : ∀ item ∈ items, IsOrdered item) : IsOrdered (.array items)
  | object {members : List (String × Json)} (ordered : Dict.Ordered members)
      (each : ∀ member ∈ members, IsOrdered member.2) : IsOrdered (.object members)

theorem isOrdered_ofPairs {pairs : List (String × Json)}
    (each : ∀ pair ∈ pairs, IsOrdered pair.2) : IsOrdered (.object (Dict.ofPairs pairs)) :=
  .object (Dict.ordered_ofPairs pairs) fun pair found => each pair (Dict.mem_of_mem_ofPairs found)

theorem IsOrdered.of_get? {members : Dict Json} (ordered : IsOrdered (.object members))
    {key : String} : ∀ value ∈ Dict.get? key members, IsOrdered value := by
  cases ordered with
  | object ordered each => exact fun value found => each _ (Dict.mem_of_get? found)

/-! ## Values that are read -/

mutual

theorem isOrdered_of_value? : ∀ (depth : Nat) (node : Node) {json : Json},
    node.value? depth = some json → IsOrdered json
  | _, .null, _, read => by
      cases read
      exact .null
  | _, .bool value, _, read => by
      cases read
      exact .bool value
  | _, .numeral value, _, read => by
      obtain ⟨number, -, rfl⟩ := Option.map_eq_some_iff.mp read
      exact .number number
  | _, .text pieces, _, read => by
      obtain ⟨text, -, rfl⟩ := Option.map_eq_some_iff.mp read
      exact .string _
  | depth + 1, .array items, _, read => by
      obtain ⟨values, all, rfl⟩ := Option.map_eq_some_iff.mp read
      exact .array (areOrdered_of_itemValues? depth items all)
  | depth + 1, .object members, _, read => by
      obtain ⟨pairs, all, rfl⟩ := Option.map_eq_some_iff.mp read
      exact isOrdered_ofPairs (membersOrdered_of_memberValues? depth members all)

theorem areOrdered_of_itemValues? : ∀ (depth : Nat) (items : List Node) {values : List Json},
    Node.itemValues? depth items = some values → ∀ value ∈ values, IsOrdered value
  | _, [], _, read => by
      cases read
      exact fun _ found => absurd found List.not_mem_nil
  | depth, item :: items, _, read => by
      obtain ⟨first, one, read⟩ := Option.bind_eq_some_iff.mp read
      obtain ⟨rest, others, read⟩ := Option.bind_eq_some_iff.mp read
      cases read
      intro value found
      rcases List.mem_cons.mp found with rfl | later
      · exact isOrdered_of_value? depth item one
      · exact areOrdered_of_itemValues? depth items others value later

theorem membersOrdered_of_memberValues? :
    ∀ (depth : Nat) (members : List (List Piece × Node)) {pairs : List (String × Json)},
      Node.memberValues? depth members = some pairs → ∀ pair ∈ pairs, IsOrdered pair.2
  | _, [], _, read => by
      cases read
      exact fun _ found => absurd found List.not_mem_nil
  | depth, (key, member) :: members, _, read => by
      obtain ⟨name, -, read⟩ := Option.bind_eq_some_iff.mp read
      obtain ⟨first, one, read⟩ := Option.bind_eq_some_iff.mp read
      obtain ⟨rest, others, read⟩ := Option.bind_eq_some_iff.mp read
      cases read
      intro pair found
      rcases List.mem_cons.mp found with rfl | later
      · exact isOrdered_of_value? depth member one
      · exact membersOrdered_of_memberValues? depth members others pair later

end

/-- The value that a text denotes has its keys in order. -/
theorem isOrdered_of_parse? {text : String} {json : Json} (parsed : parse? text = some json) :
    IsOrdered json := by
  obtain ⟨node, -, read⟩ := Option.bind_eq_some_iff.mp parsed
  exact isOrdered_of_value? maxDepth node read

/-! ## Sorted values -/

mutual

theorem isOrdered_sorted : ∀ json : Json, IsOrdered json.sorted
  | .null => .null
  | .bool value => .bool value
  | .number value => .number value
  | .string value => .string value
  | .array items => .array (areOrdered_sortedItems items)
  | .object members => isOrdered_ofPairs (membersOrdered_sortedMembers members)

theorem areOrdered_sortedItems : ∀ items : List Json, ∀ item ∈ sortedItems items, IsOrdered item
  | [], _, found => absurd found List.not_mem_nil
  | first :: items, item, found => by
      rw [sortedItems] at found
      rcases List.mem_cons.mp found with rfl | later
      · exact isOrdered_sorted first
      · exact areOrdered_sortedItems items item later

theorem membersOrdered_sortedMembers : ∀ members : List (String × Json),
    ∀ member ∈ sortedMembers members, IsOrdered member.2
  | [], _, found => absurd found List.not_mem_nil
  | (_, value) :: members, member, found => by
      rw [sortedMembers] at found
      rcases List.mem_cons.mp found with rfl | later
      · exact isOrdered_sorted value
      · exact membersOrdered_sortedMembers members member later

end

end ProbeWatch.Json
