import ProbeWatch.Json.Record
import ProbeWatch.Proofs.Dict
import ProbeWatch.Proofs.Json.Printed

/-!
# Readers and writers that agree

A value survives being printed, parsed and read when its reader and its writer agree.  Agreement is
established for the plain types, for absences and for lists; for a record it comes down to one fact
for each of its fields.
-/

namespace ProbeWatch.Json

/-! ## What can be stored -/

/-- Whether a value is plain and holds at most so many containers inside each other. -/
def Fits (depth : Nat) (json : Json) : Prop := json.isPlain = true ∧ json.nesting ≤ depth

theorem fits_array {items : List Json} {depth : Nat} (each : ∀ item ∈ items, Fits depth item) :
    Fits (depth + 1) (.array items) := by
  have fitting : arePlain items = true ∧ itemsNesting items ≤ depth := by
    induction items with
    | nil => exact ⟨rfl, Nat.zero_le depth⟩
    | cons item items ih =>
        obtain ⟨plain, shallow⟩ := each item List.mem_cons_self
        have later := ih fun other found => each other (List.mem_cons_of_mem item found)
        rw [arePlain, itemsNesting, plain]
        exact ⟨later.1, Nat.max_le.mpr ⟨shallow, later.2⟩⟩
  exact ⟨fitting.1, Nat.succ_le_succ fitting.2⟩

theorem fits_object {members : List (String × Json)} {depth : Nat}
    (each : ∀ member ∈ members, Fits depth member.2) : Fits (depth + 1) (.object members) := by
  have fitting : membersPlain members = true ∧ membersNesting members ≤ depth := by
    induction members with
    | nil => exact ⟨rfl, Nat.zero_le depth⟩
    | cons member members ih =>
        obtain ⟨plain, shallow⟩ := each member List.mem_cons_self
        have later := ih fun other found => each other (List.mem_cons_of_mem member found)
        rw [membersPlain, membersNesting, plain]
        exact ⟨later.1, Nat.max_le.mpr ⟨shallow, later.2⟩⟩
  exact ⟨fitting.1, Nat.succ_le_succ fitting.2⟩

/-! ## Members that are found -/

/-- Whether a dictionary holds every member of an object in its sorted form. -/
def Covers (dict : Dict Json) (json : Json) : Prop :=
  ∀ name value, json.member? name = some value → Dict.get? name dict = some value.sorted

theorem get?_sortedMembers (members : List (String × Json)) (name : String) :
    Dict.get? name (sortedMembers members) = (Dict.get? name members).map sorted := by
  induction members with
  | nil => rfl
  | cons member members ih =>
      rw [sortedMembers, Dict.get?, Dict.get?]
      split
      · rfl
      · exact ih

theorem keys_sortedMembers (members : List (String × Json)) :
    Dict.keys (sortedMembers members) = Dict.keys members := by
  induction members with
  | nil => rfl
  | cons member members ih =>
      rw [sortedMembers, Dict.keys_cons, Dict.keys_cons, ih]

theorem covers_ofPairs {members : List (String × Json)} (distinct : (Dict.keys members).Nodup) :
    Covers (Dict.ofPairs (sortedMembers members)) (.object members) := by
  intro name value held
  have found : Dict.get? name members = some value := held
  rw [Dict.get?_ofPairs ((keys_sortedMembers members).symm ▸ distinct), get?_sortedMembers, found,
    Option.map_some]

theorem Covers.overlay {upper : Dict Json} {json : Json} (covers : Covers upper json)
    (distinct : upper.keys.Nodup) (lower : Dict Json) : Covers (Dict.overlay lower upper) json := by
  intro name value held
  rw [Dict.get?_overlay distinct, covers name value held, Option.some_or]

/-! ## Agreement -/

/-- Whether everything that is written can be stored and reads as what it was written from. -/
structure Agree {α : Type} (read : Json → Option α) (write : α → Json) (depth : Nat) : Prop where
  fits (value : α) : Fits depth (write value)
  reads (value : α) : read (write value).sorted = some value

/-- Whether every record is written as an object that can be stored, and every dictionary that
covers the object reads as the record. -/
structure AgreeOnRecords {α : Type} (read : Json → Option α) (write : α → Json) (depth : Nat) :
    Prop where
  members (value : α) : ∃ members, write value = .object members ∧ (Dict.keys members).Nodup ∧
    ∀ member ∈ members, Fits depth member.2
  reads {value : α} {dict : Dict Json} :
    Covers dict (write value) → read (.object dict) = some value

variable {α : Type} {reader : Json → Option α} {writer : α → Json} {depth : Nat}

/-- A record that is laid over any dictionary reads as the record. -/
theorem AgreeOnRecords.reads_overlay (agree : AgreeOnRecords reader writer depth) (value : α) :
    ∃ upper, (writer value).sorted = .object upper ∧
      ∀ lower, reader (.object (Dict.overlay lower upper)) = some value := by
  obtain ⟨members, written, distinct, -⟩ := agree.members value
  have covers := (covers_ofPairs distinct).overlay (Dict.ordered_ofPairs _).distinct
  refine ⟨Dict.ofPairs (sortedMembers members), by rw [written, sorted], fun lower => ?_⟩
  exact agree.reads (written ▸ covers lower)

theorem AgreeOnRecords.agree (agree : AgreeOnRecords reader writer depth) :
    Agree reader writer (depth + 1) where
  fits value := by
    obtain ⟨members, written, -, each⟩ := agree.members value
    exact written ▸ fits_object each
  reads value := by
    obtain ⟨members, written, distinct, -⟩ := agree.members value
    rw [written, sorted]
    exact agree.reads (written ▸ covers_ofPairs distinct)

theorem Fields.read_named {dict : Dict Json} {name : String} {value : α}
    (held : (Dict.get? name dict).bind reader = some value) (position : Nat) (default : α) :
    (Fields.named dict).read position name reader default = some value := by
  obtain ⟨json, found, reads⟩ := Option.bind_eq_some_iff.mp held
  rw [Fields.read, Fields.find?, found]
  exact reads

/-- A field whose reader and writer agree is held by every dictionary that covers its record. -/
theorem Covers.bind {dict : Dict Json} {json : Json} (covers : Covers dict json)
    (agree : Agree reader writer depth) (name : String) {value : α}
    (held : json.member? name = some (writer value)) :
    (Dict.get? name dict).bind reader = some value := by
  rw [covers name (writer value) held]
  exact agree.reads value

theorem Covers.read {dict : Dict Json} {json : Json} (covers : Covers dict json)
    (agree : Agree reader writer depth) (name : String) {value : α}
    (held : json.member? name = some (writer value)) (position : Nat) (default : α) :
    (Fields.named dict).read position name reader default = some value :=
  Fields.read_named (covers.bind agree name held) position default

theorem Covers.require {dict : Dict Json} {json : Json} (covers : Covers dict json)
    (agree : Agree reader writer depth) (name : String) {value : α}
    (held : json.member? name = some (writer value)) (position : Nat) :
    (Fields.named dict).require position name reader = some value :=
  covers.bind agree name held

/-! ## Plain types -/

theorem agree_text (depth : Nat) : Agree text? .string depth where
  fits _ := ⟨rfl, Nat.zero_le depth⟩
  reads _ := rfl

theorem agree_bool (depth : Nat) : Agree bool? .bool depth where
  fits _ := ⟨rfl, Nat.zero_le depth⟩
  reads _ := rfl

theorem fits_int {value : Int} (lower : -9223372036854775808 ≤ value)
    (upper : value < 18446744073709551616) (depth : Nat) : Fits depth (.int value) :=
  ⟨decide_eq_true ⟨lower, upper⟩, Nat.zero_le depth⟩

theorem agree_int64 (depth : Nat) : Agree int64? (fun value => .int value.toInt) depth where
  fits value := by
    have low := value.le_toInt
    have high := value.toInt_lt
    exact fits_int (by omega) (by omega) depth
  reads value := by
    have low := value.le_toInt
    have high := value.toInt_lt
    have inside : -int64Bound ≤ value.toInt ∧ value.toInt < int64Bound := by
      rw [int64Bound]
      omega
    exact (if_pos inside).trans (congrArg some value.ofInt_toInt)

theorem natBelow?_nat {bound value : Nat} (below : value < bound) :
    natBelow? bound (.nat value) = some value := by
  have inside : 0 ≤ (value : Int) ∧ (value : Int) < bound := by omega
  exact (if_pos inside).trans (congrArg some (Int.toNat_natCast value))

theorem agree_word {Word : Type} {ofNat : Nat → Word} {toNat : Word → Nat} {bound : Nat}
    (narrow : bound ≤ 18446744073709551616) (below : ∀ word, toNat word < bound)
    (back : ∀ word, ofNat (toNat word) = word) (depth : Nat) :
    Agree (fun json => (natBelow? bound json).map ofNat) (fun word => .nat (toNat word)) depth where
  fits word := by
    have high := below word
    exact fits_int (by omega) (by omega) depth
  reads word := by
    change (natBelow? bound (.nat (toNat word))).map ofNat = some word
    rw [natBelow?_nat (below word), Option.map_some, back]

theorem agree_uint64 (depth : Nat) : Agree uint64? (fun value => .nat value.toNat) depth :=
  agree_word (by decide) UInt64.toNat_lt (fun _ => UInt64.ofNat_toNat) depth

theorem agree_uint32 (depth : Nat) : Agree uint32? (fun value => .nat value.toNat) depth :=
  agree_word (by decide) UInt32.toNat_lt (fun _ => UInt32.ofNat_toNat) depth

theorem agree_uint16 (depth : Nat) : Agree uint16? (fun value => .nat value.toNat) depth :=
  agree_word (by decide) UInt16.toNat_lt (fun _ => UInt16.ofNat_toNat) depth

/-! ## Absences and lists -/

theorem Agree.optional (agree : Agree reader writer depth) (strict : reader .null = none) :
    Agree (optional? reader) (fun value => (value.map writer).getD .null) depth where
  fits
    | none => ⟨rfl, Nat.zero_le depth⟩
    | some value => agree.fits value
  reads
    | none => rfl
    | some value => by
        have read := agree.reads value
        rw [Option.map_some, Option.getD_some, optional?.eq_def]
        split
        · rename_i null
          rw [null, strict] at read
          contradiction
        · rw [read]
          rfl

theorem sortedItems_eq_map (items : List Json) : sortedItems items = items.map sorted := by
  induction items with
  | nil => rfl
  | cons item items ih => rw [sortedItems, ih, List.map_cons]

theorem Agree.list (agree : Agree reader writer depth) :
    Agree (list? reader) (fun values => .array (values.map writer)) (depth + 1) where
  fits values := by
    refine fits_array fun item found => ?_
    obtain ⟨value, -, rfl⟩ := List.mem_map.mp found
    exact agree.fits value
  reads values := by
    rw [sorted, sortedItems_eq_map, list?, List.map_map]
    induction values with
    | nil => rfl
    | cons value values ih =>
        rw [List.map_cons, List.mapM_cons, Function.comp_apply, agree.reads value, ih]
        rfl

end ProbeWatch.Json
