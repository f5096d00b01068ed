import ProbeWatch.Proofs.Json.Ordered
import ProbeWatch.Proofs.Session.Restoration

/-!
# Merged trees

What a default tree comes to under a persisted one, module by module: a module that was not
persisted or is of another kind stays as it is, objects are laid over each other field by field, and
anything else is replaced.  Merging again changes nothing, whichever of the trees is taken once more.
-/

namespace ProbeWatch.Snapshot

open Json (IsOrdered)

/-- What a default module comes to under a persisted one, if there is one. -/
inductive MergesTo : Json → Option Json → Json → Prop
  /-- A module that was not persisted stays. -/
  | missing (module : Json) : MergesTo module none module
  /-- The fields of both objects are there, and the persisted ones win. -/
  | overlaid {fields overrides merged : Dict Json} (ordered : Dict.Ordered merged)
      (view : ∀ name, Dict.get? name merged = (Dict.get? name overrides).or (Dict.get? name fields)) :
      MergesTo (.object fields) (some (.object overrides)) (.object merged)
  /-- An object stays under anything else. -/
  | refused {fields : Dict Json} {persisted : Json} (plain : persisted.members? = none) :
      MergesTo (.object fields) (some persisted) (.object fields)
  /-- Anything but an object is replaced. -/
  | replaced {module : Json} (plain : module.members? = none) (persisted : Json) :
      MergesTo module (some persisted) persisted

namespace MergesTo

variable {module result : Json} {persisted : Option Json}

theorem unique (merges : MergesTo module persisted result) {other : Json}
    (merges' : MergesTo module persisted other) : result = other := by
  cases merges with
  | missing =>
      cases merges'
      rfl
  | overlaid laid view =>
      cases merges' with
      | overlaid laid' view' =>
          exact congrArg Json.object
            (laid.ext laid' fun name => (view name).trans (view' name).symm)
      | refused plain => cases plain
      | replaced plain => cases plain
  | refused plain =>
      cases merges' with
      | overlaid => cases plain
      | refused => rfl
      | replaced bare => cases bare
  | replaced plain =>
      cases merges' with
      | overlaid => cases plain
      | refused => cases plain
      | replaced => rfl

theorem self (ordered : IsOrdered module) : MergesTo module (some module) module := by
  cases ordered with
  | object ordered each => exact .overlaid ordered fun name => Option.or_self.symm
  | _ => exact .replaced rfl _

/-- A result stays under what was persisted. -/
theorem again (merges : MergesTo module persisted result)
    (ordered : ∀ value ∈ persisted, IsOrdered value) : MergesTo result persisted result := by
  cases merges with
  | missing => exact .missing module
  | overlaid laid view =>
      refine .overlaid laid fun name => ?_
      rw [view, ← Option.or_assoc, Option.or_self]
  | refused plain => exact .refused plain
  | replaced => exact self (ordered result rfl)

/-- A result is what the module comes to under it. -/
theorem absorb (merges : MergesTo module persisted result) (ordered : IsOrdered module) :
    MergesTo module (some result) result := by
  cases merges with
  | missing => exact self ordered
  | overlaid laid view =>
      refine .overlaid laid fun name => ?_
      rw [view, Option.or_assoc, Option.or_self]
  | refused => exact self ordered
  | replaced plain => exact .replaced plain result

theorem isOrdered (merges : MergesTo module persisted result) (ordered : IsOrdered module)
    (ordered' : ∀ value ∈ persisted, IsOrdered value) : IsOrdered result := by
  cases merges with
  | missing => exact ordered
  | overlaid laid view =>
      refine .object laid fun member found => ?_
      have held := Dict.get?_of_mem laid.distinct found
      rw [view, Option.or_eq_some_iff] at held
      rcases held with above | ⟨-, below⟩
      · cases ordered' _ rfl with
        | object _ each => exact each _ (Dict.mem_of_get? above)
      · cases ordered with
        | object _ each => exact each _ (Dict.mem_of_get? below)
  | refused => exact ordered
  | replaced => exact ordered' result rfl

end MergesTo

/-! ## Modules -/

variable {module : Json} {persisted : Option Json}

theorem mergeModule_none (module : Json) : mergeModule module none = module := by
  cases module <;> rfl

theorem mergeModule_of_plain (plain : module.members? = none) (value : Json) :
    mergeModule module (some value) = value := by
  cases module with
  | object => cases plain
  | _ => cases value <;> rfl

theorem mergesTo_mergeModule (ordered : IsOrdered module)
    (ordered' : ∀ value ∈ persisted, IsOrdered value) :
    MergesTo module persisted (mergeModule module persisted) := by
  cases persisted with
  | none =>
      rw [mergeModule_none]
      exact .missing module
  | some value =>
      cases ordered with
      | object ordered each =>
          cases ordered' value rfl with
          | object laid each' =>
              exact .overlaid (ordered.overlay _) (Dict.get?_overlay laid.distinct _)
          | _ => exact .refused rfl
      | _ =>
          rw [mergeModule_of_plain rfl]
          exact .replaced rfl value

theorem mergeModule_self (ordered : IsOrdered module) : mergeModule module (some module) = module := by
  refine (mergesTo_mergeModule ordered ?_).unique (.self ordered)
  rintro value ⟨⟩
  exact ordered

theorem mergeModule_again (ordered : IsOrdered module)
    (ordered' : ∀ value ∈ persisted, IsOrdered value) :
    mergeModule (mergeModule module persisted) persisted = mergeModule module persisted := by
  have merges := mergesTo_mergeModule ordered ordered'
  exact (mergesTo_mergeModule (merges.isOrdered ordered ordered') ordered').unique
    (merges.again ordered')

theorem mergeModule_absorb (ordered : IsOrdered module)
    (ordered' : ∀ value ∈ persisted, IsOrdered value) :
    mergeModule module (some (mergeModule module persisted)) = mergeModule module persisted := by
  have merges := mergesTo_mergeModule ordered ordered'
  refine (mergesTo_mergeModule ordered ?_).unique (merges.absorb ordered)
  rintro value ⟨⟩
  exact merges.isOrdered ordered ordered'

/-! ## Trees -/

section

variable {modules overrides : Dict Json}

theorem mergedModules_self (ordered : IsOrdered (.object modules)) :
    mergedModules modules modules = modules := by
  cases ordered with
  | object ordered each =>
      refine (List.map_congr_left fun pair found => ?_).trans (List.map_id modules)
      rw [Dict.get?_of_mem ordered.distinct found, mergeModule_self (each pair found)]
      rfl

theorem mergedModules_again (ordered : IsOrdered (.object modules))
    (ordered' : IsOrdered (.object overrides)) :
    mergedModules (mergedModules modules overrides) overrides = mergedModules modules overrides := by
  cases ordered with
  | object ordered each =>
      rw [mergedModules, mergedModules, List.map_map]
      refine List.map_congr_left fun pair found => ?_
      exact congrArg (pair.1, ·) (mergeModule_again (each pair found) ordered'.of_get?)

theorem mergedModules_absorb (ordered : IsOrdered (.object modules))
    (ordered' : IsOrdered (.object overrides)) :
    mergedModules modules (mergedModules modules overrides) = mergedModules modules overrides := by
  cases ordered with
  | object ordered each =>
      refine List.map_congr_left fun pair found => ?_
      have held : Dict.get? pair.1 (mergedModules modules overrides) =
          some (mergeModule pair.2 (Dict.get? pair.1 overrides)) := by
        rw [mergedModules, Dict.get?_map, Dict.get?_of_mem ordered.distinct found, Option.map_some]
      rw [held, mergeModule_absorb (each pair found) ordered'.of_get?]

variable {defaults : Json}

theorem merge_of_plain {persisted : Json}
    (plain : defaults.members? = none ∨ persisted.members? = none) :
    merge defaults persisted = defaults := by
  cases defaults with
  | object modules =>
      cases persisted with
      | object overrides => simp [Json.members?] at plain
      | _ => rfl
  | _ => rfl

theorem merge_self (ordered : IsOrdered defaults) : merge defaults defaults = defaults := by
  cases defaults with
  | object modules => exact congrArg Json.object (mergedModules_self ordered)
  | _ => rfl

theorem merge_again {persisted : Json} (ordered : IsOrdered defaults)
    (ordered' : IsOrdered persisted) :
    merge (merge defaults persisted) persisted = merge defaults persisted := by
  cases defaults with
  | object modules =>
      cases persisted with
      | object overrides => exact congrArg Json.object (mergedModules_again ordered ordered')
      | _ => rfl
  | _ => rfl

theorem merge_absorb {persisted : Json} (ordered : IsOrdered defaults)
    (ordered' : IsOrdered persisted) :
    merge defaults (merge defaults persisted) = merge defaults persisted := by
  cases defaults with
  | object modules =>
      cases persisted with
      | object overrides => exact congrArg Json.object (mergedModules_absorb ordered ordered')
      | _ => exact merge_self ordered
  | _ => rfl

end

/-- Unless both trees are objects, the defaults stay as they are.  Two objects come to one with the
modules of the defaults, each of which comes to what it should under the persisted one of the same
name.  Merging what was persisted once more, merging what was merged over the defaults, and merging
the defaults over themselves change nothing. -/
theorem merge_laws {defaults persisted : Json} (ordered : IsOrdered defaults)
    (ordered' : IsOrdered persisted) :
    (defaults.members? = none ∨ persisted.members? = none → merge defaults persisted = defaults) ∧
      (∀ modules overrides, defaults = .object modules → persisted = .object overrides →
        ∃ merged, merge defaults persisted = .object merged ∧
          Dict.keys merged = Dict.keys modules ∧
          ∀ key module, Dict.get? key modules = some module →
            ∃ result, Dict.get? key merged = some result ∧
              MergesTo module (Dict.get? key overrides) result) ∧
      merge (merge defaults persisted) persisted = merge defaults persisted ∧
      merge defaults (merge defaults persisted) = merge defaults persisted ∧
      merge defaults defaults = defaults := by
  refine ⟨merge_of_plain, ?_, merge_again ordered ordered', merge_absorb ordered ordered',
    merge_self ordered⟩
  rintro modules overrides rfl rfl
  refine ⟨mergedModules modules overrides, rfl, Dict.keys_map _ _, fun key module held => ?_⟩
  refine ⟨mergeModule module (Dict.get? key overrides), ?_, ?_⟩
  · rw [mergedModules, Dict.get?_map, held, Option.map_some]
  · exact mergesTo_mergeModule (ordered.of_get? module held) ordered'.of_get?

/-- Merging a stored text over what it was merged to changes nothing, so restoring again and again
comes to the same tree. -/
theorem merge_stored (defaults : Session) {text : String} {persisted : Json}
    (parsed : Json.parse? text = some persisted) :
    merge (merge defaults.toJson.sorted persisted) persisted =
      merge defaults.toJson.sorted persisted :=
  merge_again (Json.isOrdered_sorted _) (Json.isOrdered_of_parse? parsed)

/-- Defaults with a list and a record. -/
def plainTree : Json :=
  .object [("list", .array []), ("text", .object [("domain", .string ""), ("page", .int 1)])]

/-- A tree that was persisted with another kind of list, an unknown module and an unknown field. -/
def driftedTree : Json :=
  .object [("legacy", .null), ("list", .object []),
    ("text", .object [("domain", .string "d"), ("extra", .null)])]

theorem isOrdered_plainTree : IsOrdered plainTree := by
  have same : plainTree.sorted = plainTree := rfl
  exact same ▸ Json.isOrdered_sorted plainTree

theorem isOrdered_driftedTree : IsOrdered driftedTree := by
  have same : driftedTree.sorted = driftedTree := rfl
  exact same ▸ Json.isOrdered_sorted driftedTree

theorem merge_of_drifted_tree :
    let merged : Json := .object [("list", .object []),
      ("text", .object [("domain", .string "d"), ("extra", .null), ("page", .int 1)])]
    IsOrdered plainTree ∧ IsOrdered driftedTree ∧ merge plainTree driftedTree = merged ∧
      merge merged driftedTree = merged ∧ merge plainTree merged = merged := by
  intro merged
  have result : merge plainTree driftedTree = merged := rfl
  obtain ⟨-, -, again, absorb, -⟩ := merge_laws isOrdered_plainTree isOrdered_driftedTree
  rw [result] at again absorb
  exact ⟨isOrdered_plainTree, isOrdered_driftedTree, result, again, absorb⟩

end ProbeWatch.Snapshot
