import ProbeWatch.Proofs.Dict
import ProbeWatch.Proofs.Json.Indented
import ProbeWatch.Proofs.Moment.Reading
import ProbeWatch.Store.File.Format

/-!
# State files that are read back

The text of a state file decodes to the entries that it was written for, if their keys are in order
and their moments are ones that a clock can show.  All entries that are decoded are so.
-/

namespace ProbeWatch.StateFile

open Json (Node piecesOf nodeOf memberNodes)

/-- Whether entries are such that a state file can hold them. -/
structure Sound (entries : Dict StoredText) : Prop where
  /-- The keys are in order. -/
  ordered : Dict.Ordered entries
  /-- A clock can show the moments of all changes. -/
  moments : ∀ pair ∈ entries, pair.2.updatedAt.IsValid

theorem sound_nil : Sound [] := ⟨Dict.ordered_nil, fun _ found => absurd found List.not_mem_nil⟩

theorem Sound.insert {entries : Dict StoredText} (sound : Sound entries) (key value : String)
    {now : Moment} (valid : now.IsValid) : Sound (Dict.insert key ⟨value, now⟩ entries) where
  ordered := sound.ordered.insert key _
  moments pair found := by
    rcases Dict.mem_of_mem_insert found with rfl | held
    · exact valid
    · exact sound.moments pair held

theorem Sound.erase {entries : Dict StoredText} (sound : Sound entries) (key : String) :
    Sound (Dict.erase key entries) where
  ordered := sound.ordered.erase key
  moments pair found := sound.moments pair (List.mem_filter.mp found).1

/-! ## Reading one by one -/

section

variable {α β : Type} {read : α → Option β}

theorem mapM_eq_some_map {made : α → β} {items : List α}
    (each : ∀ item ∈ items, read item = some (made item)) :
    items.mapM read = some (items.map made) := by
  induction items with
  | nil => rfl
  | cons item items ih =>
      rw [List.mapM_cons, each item List.mem_cons_self,
        ih fun item found => each item (List.mem_cons_of_mem _ found)]
      rfl

theorem exists_of_mem_mapM {items : List α} {results : List β} (all : items.mapM read = some results)
    {result : β} (found : result ∈ results) : ∃ item ∈ items, read item = some result := by
  induction items generalizing results with
  | nil =>
      cases all
      cases found
  | cons item items ih =>
      rw [List.mapM_cons] at all
      obtain ⟨first, one, all⟩ := Option.bind_eq_some_iff.mp all
      obtain ⟨rest, others, all⟩ := Option.bind_eq_some_iff.mp all
      cases all
      rcases List.mem_cons.mp found with rfl | later
      · exact ⟨item, List.mem_cons_self, one⟩
      · obtain ⟨item, member, same⟩ := ih others later
        exact ⟨item, List.mem_cons_of_mem _ member, same⟩

end

/-! ## Reading what was written -/

theorem memberNodes_eq_map (members : List (String × Json)) :
    memberNodes members = members.map fun member => (piecesOf member.1, nodeOf member.2) := by
  induction members with
  | nil => rfl
  | cons member members ih => rw [memberNodes, ih, List.map_cons]

theorem members?_memberNodes (members : List (String × Json)) :
    members? (memberNodes members) =
      some (members.map fun member => (member.1, nodeOf member.2)) := by
  rw [memberNodes_eq_map, members?, List.mapM_map]
  refine mapM_eq_some_map fun member _ => ?_
  change (Json.piecesText? (piecesOf member.1)).map _ = _
  rw [Json.piecesText?_piecesOf, Option.map_some, String.ofList_toList]

theorem text?_nodeOf_string (text : String) : (nodeOf (.string text)).text? = some text := by
  rw [nodeOf, Node.text?, Json.piecesText?_piecesOf, Option.map_some, String.ofList_toList]

theorem pair?_nodeOf {first second : String} (different : first ≠ second) (left right : Json) :
    pair? first second (nodeOf (.object [(first, left), (second, right)])) =
      some (nodeOf left, nodeOf right) := by
  have members := members?_memberNodes [(first, left), (second, right)]
  simp only [nodeOf, pair?, members, List.map_cons, List.map_nil, Option.bind_eq_bind,
    Option.bind_some, single?, List.filter_cons, beq_self_eq_true, beq_false_of_ne different,
    beq_false_of_ne different.symm, if_true, Bool.false_eq_true, if_false, List.filter_nil]
  rfl

theorem readStored?_nodeOf {stored : StoredText} (valid : stored.updatedAt.IsValid) :
    readStored? (nodeOf (entryJson stored)) = some stored := by
  have different : "value" ≠ "updated_at" := by decide
  have fields := pair?_nodeOf different (.string stored.value) (.string stored.updatedAt.zuluText)
  rw [readStored?, entryJson, fields]
  simp only [Option.bind_eq_bind, Option.bind_some, text?_nodeOf_string,
    Moment.read?_zuluText valid]
  rfl

theorem fileJson_eq (entries : Dict StoredText) :
    fileJson entries =
      .object [("version", .string version),
        ("entries", .object (entries.map fun pair => (pair.1, entryJson pair.2)))] :=
  rfl

theorem isPlain_fileJson (entries : Dict StoredText) : (fileJson entries).isPlain = true := by
  suffices plain :
      Json.membersPlain (entries.map fun pair => (pair.1, entryJson pair.2)) = true by
    simp only [fileJson_eq, Json.isPlain, Json.membersPlain, plain, Bool.and_self]
  induction entries with
  | nil => rfl
  | cons pair entries ih =>
      rw [List.map_cons, Json.membersPlain, ih]
      rfl

theorem readEntries?_nodeOf {entries : Dict StoredText} (sound : Sound entries) :
    readEntries? (nodeOf (.object (entries.map fun pair => (pair.1, entryJson pair.2)))) =
      some entries := by
  have read : (entries.map fun pair => (pair.1, nodeOf (entryJson pair.2))).mapM
      (fun member => (readStored? member.2).map fun entry => (member.1, entry)) =
        some (entries.map id) := by
    rw [List.mapM_map]
    refine mapM_eq_some_map fun pair found => ?_
    change (readStored? (nodeOf (entryJson pair.2))).map _ = _
    rw [readStored?_nodeOf (sound.moments pair found)]
    rfl
  rw [nodeOf, readEntries?, members?_memberNodes, List.map_map]
  simp only [Option.bind_eq_bind, Option.bind_some]
  refine (congrArg (Option.bind · _) read).trans ?_
  rw [List.map_id]
  exact congrArg some sound.ordered.ofPairs_self

/-- A state file decodes to the entries that it was written for. -/
theorem decode?_encode {entries : Dict StoredText} (sound : Sound entries) :
    decode? (encode entries) = some entries := by
  have different : "version" ≠ "entries" := by decide
  have fields := pair?_nodeOf different (.string version)
    (.object (entries.map fun pair => (pair.1, entryJson pair.2)))
  rw [decode?, encode, Json.parse?_indented (isPlain_fileJson entries), fileJson_eq]
  simp only [Option.bind_eq_bind, Option.bind_some, fields, text?_nodeOf_string,
    readEntries?_nodeOf sound]

/-! ## What is read -/

theorem isValid_of_readStored? {node : Node} {stored : StoredText}
    (read : readStored? node = some stored) : stored.updatedAt.IsValid := by
  simp only [readStored?, Option.bind_eq_bind, Option.bind_eq_some_iff, Prod.exists] at read
  obtain ⟨value, updatedAt, -, text, -, moment, ⟨source, -, shown⟩, made⟩ := read
  cases made
  exact Moment.isValid_of_read? shown

theorem sound_of_readEntries? {node : Node} {entries : Dict StoredText}
    (read : readEntries? node = some entries) : Sound entries := by
  rw [readEntries?.eq_def] at read
  split at read
  · simp only [Option.bind_eq_bind, Option.bind_eq_some_iff] at read
    obtain ⟨members, -, pairs, each, made⟩ := read
    cases made
    refine ⟨Dict.ordered_ofPairs pairs, fun pair found => ?_⟩
    obtain ⟨member, -, made⟩ := exists_of_mem_mapM each (Dict.mem_of_mem_ofPairs found)
    obtain ⟨stored, read, rfl⟩ := Option.map_eq_some_iff.mp made
    exact isValid_of_readStored? read
  · cases read

/-- Whatever a state file decodes to can be held by one. -/
theorem sound_of_decode? {text : String} {entries : Dict StoredText}
    (decoded : decode? text = some entries) : Sound entries := by
  simp only [decode?, Option.bind_eq_bind, Option.bind_eq_some_iff, Prod.exists] at decoded
  obtain ⟨node, -, version, node, -, text, -, read⟩ := decoded
  exact sound_of_readEntries? read

end ProbeWatch.StateFile
