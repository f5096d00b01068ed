import Mathlib.Data.List.Forall2
import ProbeWatch.Proofs.Json.Record

/-!
# Trees of older and newer backends

A backend of another version may leave out fields of a record and add fields of its own, in the
record itself and in the records inside it.  What is read from such a tree is the record with a
default for each field that was left out; for a record this comes down to one fact for each of its
fields.
-/

namespace ProbeWatch.Json

/-! ## What may become of a tree -/

/-- Whether one tree is what may have become of another: its objects, at every level, may have lost
members and gained members under new names, in any order. -/
inductive Drifts : Json → Json → Prop
  | null : Drifts .null .null
  | bool (value : Bool) : Drifts (.bool value) (.bool value)
  | number (value : Number) : Drifts (.number value) (.number value)
  | string (value : String) : Drifts (.string value) (.string value)
  | array {items left : List Json} (each : List.Forall₂ Drifts items left) :
      Drifts (.array items) (.array left)
  | object {members left : List (String × Json)}
      (kept : ∀ name before after, Dict.get? name members = some before →
        Dict.get? name left = some after → Drifts before after) :
      Drifts (.object members) (.object left)

mutual

theorem drifts_self : ∀ json : Json, Drifts json json
  | .null => .null
  | .bool value => .bool value
  | .number value => .number value
  | .string value => .string value
  | .array items => .array (items_drift_self items)
  | .object members => .object fun name before _ found found' =>
      Option.some.inj (found.symm.trans found') ▸ member_drifts_self members name before found

theorem items_drift_self : ∀ items : List Json, List.Forall₂ Drifts items items
  | [] => .nil
  | item :: items => .cons (drifts_self item) (items_drift_self items)

theorem member_drifts_self : ∀ (members : List (String × Json)) (name : String) (held : Json),
    Dict.get? name members = some held → Drifts held held
  | [], _, _, found => nomatch found
  | (key, value) :: members, name, held, found => by
      rw [Dict.get?] at found
      split at found
      · rw [← Option.some.inj found]
        exact drifts_self value
      · exact member_drifts_self members name held found

end

/-- Whether a tree holds no other trees. -/
def IsScalar : Json → Prop
  | .array _ | .object _ => False
  | _ => True

theorem Drifts.eq_of_isScalar {json left : Json} (drifts : Drifts json left)
    (scalar : IsScalar json) : left = json := by
  cases drifts with
  | null => rfl
  | bool value => rfl
  | number value => rfl
  | string value => rfl
  | array each => exact scalar.elim
  | object kept => exact scalar.elim

/-! ## What is left of a value -/

/-- What is left of a field in a tree: what its own tree leaves of it, or its default if the tree
has no member of the name. -/
def fieldLeft {α : Type} (leftIn : Json → α → α) (json : Json) (name : String)
    (value fallback : α) : α :=
  match json.member? name with
  | some held => leftIn held value
  | none => fallback

/-- What is left of a field that is there as a whole or not at all. -/
def kept {α : Type} (json : Json) (name : String) (value fallback : α) : α :=
  fieldLeft (fun _ value => value) json name value fallback

/-- What is left of a list: what each item leaves of its value. -/
def eachLeft {α : Type} (leftIn : Json → α → α) : Json → List α → List α
  | .array items, values => List.zipWith leftIn items values
  | _, values => values

/-- Whether every value is read from what may have become of its tree, as far as it is left there;
and from the tree as it was, all of it is. -/
structure Survives {α : Type} (reader : Json → Option α) (writer : α → Json)
    (leftIn : Json → α → α) : Prop where
  whole (value : α) : leftIn (writer value) value = value
  reads {value : α} {json : Json} :
    Drifts (writer value) json → reader json = some (leftIn json value)

variable {α : Type} {reader : Json → Option α} {writer : α → Json} {leftIn : Json → α → α}

theorem Survives.back (survives : Survives reader writer leftIn) (value : α) :
    reader (writer value) = some value := by
  rw [survives.reads (drifts_self (writer value)), survives.whole]

theorem survives_scalar (reads : ∀ value, reader (writer value) = some value)
    (scalar : ∀ value, IsScalar (writer value)) :
    Survives reader writer fun _ value => value where
  whole _ := rfl
  reads drifts := by rw [drifts.eq_of_isScalar (scalar _), reads]

theorem survives_text : Survives text? .string fun _ value => value :=
  survives_scalar (agree_text 0).reads fun _ => trivial

theorem survives_bool : Survives bool? .bool fun _ value => value :=
  survives_scalar (agree_bool 0).reads fun _ => trivial

theorem survives_int64 : Survives int64? (fun value => .int value.toInt) fun _ value => value :=
  survives_scalar (agree_int64 0).reads fun _ => trivial

theorem survives_uint64 : Survives uint64? (fun value => .nat value.toNat) fun _ value => value :=
  survives_scalar (agree_uint64 0).reads fun _ => trivial

theorem survives_uint32 : Survives uint32? (fun value => .nat value.toNat) fun _ value => value :=
  survives_scalar (agree_uint32 0).reads fun _ => trivial

theorem survives_optionalText :
    Survives (optional? text?) .ofString? fun _ value => value :=
  survives_scalar (fun value => by cases value <;> rfl) fun value => by
    cases value <;> exact trivial

theorem Survives.list (survives : Survives reader writer leftIn) :
    Survives (list? reader) (fun values => .array (values.map writer)) (eachLeft leftIn) where
  whole values := by
    rw [eachLeft]
    induction values with
    | nil => rfl
    | cons value values ih => rw [List.map_cons, List.zipWith_cons_cons, survives.whole, ih]
  reads {values json} drifts := by
    cases drifts with
    | array each =>
        rw [list?, eachLeft]
        rename_i left
        induction values generalizing left with
        | nil => cases each; rfl
        | cons value values ih =>
            obtain _ | ⟨first, others⟩ := each
            rw [List.mapM_cons, survives.reads first, ih others]
            rfl

/-! ## Fields of records -/

theorem Drifts.exists_members {members : List (String × Json)} {json : Json}
    (drifts : Drifts (.object members) json) : ∃ left, json = .object left := by
  cases drifts with
  | object kept => exact ⟨_, rfl⟩

/-- A field is read from what has become of its record as far as it is left there. -/
theorem Survives.read (survives : Survives reader writer leftIn) {record : Json}
    {left : List (String × Json)} (drifts : Drifts record (.object left)) (name : String)
    {value : α} (held : record.member? name = some (writer value)) (position : Nat) (fallback : α) :
    (Fields.named left).read position name reader fallback =
      some (fieldLeft leftIn (.object left) name value fallback) := by
  rw [Fields.read, Fields.find?, fieldLeft, member?]
  cases found : Dict.get? name left with
  | none => rfl
  | some json =>
      cases drifts with
      | object kept => exact survives.reads (kept name _ _ held found)

end ProbeWatch.Json
