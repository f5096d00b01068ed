import ProbeWatch.Proofs.Session.Restoration

/-!
# Isolated modules

Restoring fails for storage that cannot be read and for a text that is not JSON, and for nothing
else.  Each module of a restored session depends on the stored module of its own name alone: a module
that does not read is passed over, and those around it are adopted as if it had not been stored.
-/

namespace ProbeWatch

open Json
open Session (Holds)

/-! ## Filtered dictionaries -/

theorem Dict.get?_filter {α : Type} {dict : Dict α} (distinct : dict.keys.Nodup)
    (keep : String × α → Bool) (key : String) :
    get? key (dict.filter keep) = (get? key dict).filter fun value => keep (key, value) := by
  induction dict with
  | nil => rfl
  | cons pair rest ih =>
      obtain ⟨name, value⟩ := pair
      rw [keys_cons, List.nodup_cons] at distinct
      have later := ih distinct.2
      by_cases same : name = key
      · subst same
        have absent : get? name (rest.filter keep) = none := by
          rw [later, get?_eq_none_of_notMem distinct.1, Option.filter_none]
        by_cases kept : keep (name, value) = true
        · simp [get?, kept, Option.filter_some]
        · simp [get?, kept, absent, Option.filter_some]
      · by_cases kept : keep (name, value) = true
        · simp [get?, kept, same, later]
        · simp [get?, kept, same, later]

namespace Snapshot

/-! ## What a stored tree comes to -/

/-- The tree that was stored, if it was stored as more than blanks and is JSON. -/
def storedTree? (stored : Option String) : Option Json := do
  let text ← stored
  if Text.isAllBlank text then none else Json.parse? text

/-- What a default module and the stored one come to: the fields of the stored one are laid over
those of the default, and the default stays if there are none or if they do not read so. -/
def settle {α : Type} (reader : Json → Option α) (writer : α → Json) (default : α)
    (stored : Option Json) : α :=
  match stored with
  | some (.object overrides) =>
      let fields := (writer default).sorted.members?.getD []
      (reader (.object (Dict.overlay fields overrides))).getD default
  | _ => default

/-- What defaults and a stored tree come to, module by module. -/
def settled (defaults : Session) (tree : Option Json) : Session where
  credential := defaults.credential
  text := settle TextModule.ofJson? TextModule.toJson defaults.text (tree >>= member? "text")
  system :=
    settle SystemModule.ofJson? SystemModule.toJson defaults.system (tree >>= member? "system")
  runtime :=
    settle RuntimeConfig.ofJson? RuntimeConfig.toJson defaults.runtime
      (tree >>= member? "runtimeConfig")
  results := settle Results.ofJson? Results.toJson defaults.results (tree >>= member? "results")

theorem getD_mergeModule {α : Type} {reader : Json → Option α} {writer : α → Json} {depth : Nat}
    (agree : AgreeOnRecords reader writer depth) (default : α) (stored : Option Json) :
    (reader (mergeModule (writer default).sorted stored)).getD default =
      settle reader writer default stored := by
  obtain ⟨fields, below, -⟩ := agree.reads_overlay default
  have reads : reader (.object fields) = some default := below ▸ agree.agree.reads default
  rw [below]
  cases stored with
  | none =>
      rw [mergeModule, reads]
      rfl
  | some module =>
      cases module with
      | object overrides => simp only [mergeModule, settle, below, members?, Option.getD_some]
      | _ =>
          rw [mergeModule, reads]
          · rfl
          · simp

/-! ## One module after another -/

/-- Whether a module reads as what its name stands for. -/
def fitsItsName (module : String × Json) : Bool :=
  (module.1 != "text" || (TextModule.ofJson? module.2).isSome) &&
    (module.1 != "system" || (SystemModule.ofJson? module.2).isSome) &&
    (module.1 != "runtimeConfig" || (RuntimeConfig.ofJson? module.2).isSome) &&
    (module.1 != "results" || (Results.ofJson? module.2).isSome)

/-- A field is still read after a module was put into a dictionary, if the module reads in case it
is the one of the field. -/
theorem exists_bind_insert_of_fits {α : Type} {reader : Json → Option α} {tree : Dict Json}
    {key : String} {module : String × Json} {current : α}
    (held : (Dict.get? key tree).bind reader = some current)
    (fits : (module.1 != key || (reader module.2).isSome) = true) :
    ∃ value, (Dict.get? key (Dict.insert module.1 module.2 tree)).bind reader = some value := by
  by_cases same : module.1 = key
  · subst same
    rw [bne_self_eq_false, Bool.false_or] at fits
    rw [Dict.get?_insert_self, Option.bind_some]
    exact Option.isSome_iff_exists.mp fits
  · exact ⟨current, by rw [Dict.get?_insert_of_ne (Ne.symm same)]; exact held⟩

theorem exists_holds_of_fits {tree : Dict Json} {current : Session} (holds : Holds tree current)
    {module : String × Json} (fits : fitsItsName module = true) :
    ∃ next, Holds (Dict.insert module.1 module.2 tree) next := by
  simp only [fitsItsName, Bool.and_eq_true] at fits
  obtain ⟨⟨⟨text, system⟩, runtime⟩, results⟩ := fits
  obtain ⟨text, textHeld⟩ := exists_bind_insert_of_fits holds.text text
  obtain ⟨system, systemHeld⟩ := exists_bind_insert_of_fits holds.system system
  obtain ⟨runtime, runtimeHeld⟩ := exists_bind_insert_of_fits holds.runtime runtime
  obtain ⟨results, resultsHeld⟩ := exists_bind_insert_of_fits holds.results results
  exact ⟨⟨.absent, text, system, runtime, results⟩, textHeld, systemHeld, runtimeHeld, resultsHeld⟩

theorem isSome_of_read {α : Type} {reader : Json → Option α} {tree : Dict Json} {key : String}
    {json : Json} (position : Nat) {default value : α}
    (read : (Fields.named tree).read position key reader default = some value)
    (found : Dict.get? key tree = some json) : (reader json).isSome = true := by
  rw [Fields.read, Fields.find?, found] at read
  exact Option.isSome_of_eq_some read

theorem fitsItsName_of_ofJson? {tree : Dict Json} {session : Session}
    (reads : Session.ofJson? (.object tree) = some session) {module : String × Json}
    (found : Dict.get? module.1 tree = some module.2) : fitsItsName module = true := by
  simp only [Session.ofJson?, fields?, Option.bind_eq_bind, Option.bind_some,
    Option.bind_eq_some_iff] at reads
  obtain ⟨text, textRead, system, systemRead, runtime, runtimeRead, results, resultsRead, -⟩ := reads
  have fits {α : Type} {reader : Json → Option α} {key : String} {position : Nat} {default value : α}
      (read : (Fields.named tree).read position key reader default = some value) :
      (module.1 != key || (reader module.2).isSome) = true := by
    by_cases same : module.1 = key
    · rw [isSome_of_read position read (same ▸ found), Bool.or_true]
    · rw [bne_iff_ne.mpr same, Bool.true_or]
  simp only [fitsItsName, fits textRead, fits systemRead, fits runtimeRead, fits resultsRead,
    Bool.and_self]

/-- A module is adopted if and only if it fits its name, and the tree reads in either case. -/
theorem adoptModule_eq {tree : Dict Json} {current : Session} (holds : Holds tree current)
    (module : String × Json) :
    adoptModule (.object tree) module =
        .object (if fitsItsName module then Dict.insert module.1 module.2 tree else tree) ∧
      ∃ next,
        Holds (if fitsItsName module then Dict.insert module.1 module.2 tree else tree) next := by
  rw [adoptModule]
  by_cases fits : fitsItsName module = true
  · obtain ⟨next, reads⟩ := exists_holds_of_fits holds fits
    rw [if_pos fits, reads.ofJson?]
    exact ⟨rfl, next, reads⟩
  · have refused : Session.ofJson? (.object (Dict.insert module.1 module.2 tree)) = none := by
      rw [Option.eq_none_iff_forall_ne_some]
      intro session reads
      exact fits (fitsItsName_of_ofJson? reads (Dict.get?_insert_self module.1 module.2 tree))
    rw [if_neg fits, refused]
    exact ⟨rfl, current, holds⟩

theorem foldl_adoptModule_eq (modules : List (String × Json)) {tree : Dict Json} {current : Session}
    (holds : Holds tree current) :
    modules.foldl adoptModule (.object tree) =
      .object (Dict.overlay tree (modules.filter fitsItsName)) := by
  induction modules generalizing tree current with
  | nil => rfl
  | cons module modules ih =>
      obtain ⟨adopted, next, reads⟩ := adoptModule_eq holds module
      rw [List.foldl_cons, adopted, ih reads, List.filter_cons]
      split <;> rfl

/-- A module that was laid over a tree with all others that fit their names is read if it fits its
own, and that of the tree below is read if not. -/
theorem bind_overlay_filter {α : Type} {reader : Json → Option α} {tree merged : Dict Json}
    {key : String} {default : α} {module : Json} (distinct : merged.keys.Nodup)
    (held : (Dict.get? key tree).bind reader = some default)
    (offered : Dict.get? key merged = some module)
    (fits : fitsItsName (key, module) = (reader module).isSome) :
    (Dict.get? key (Dict.overlay tree (merged.filter fitsItsName))).bind reader =
      some ((reader module).getD default) := by
  have filtered : Dict.keys (merged.filter fitsItsName) |>.Nodup :=
    (List.filter_sublist.map Prod.fst).nodup distinct
  rw [Dict.get?_overlay filtered, Dict.get?_filter distinct, offered, Option.filter_some, fits]
  cases reads : reader module with
  | none => simpa using held
  | some value => simp [reads]

/-! ## The restored session -/

theorem holds_adopted {modules overrides : Dict Json} {defaults : Session}
    (ordered : Dict.Ordered modules) (lower : Covers modules defaults.toJson) :
    Holds (Dict.overlay modules ((mergedModules modules overrides).filter fitsItsName))
      (settled defaults (some (.object overrides))) := by
  have distinct : (mergedModules modules overrides).keys.Nodup := by
    rw [mergedModules, Dict.keys_map]
    exact ordered.distinct
  have held := Session.holds_of_covers lower
  have settles {α : Type} {reader : Json → Option α} {writer : α → Json} {depth : Nat}
      (agree : AgreeOnRecords reader writer depth) {key : String} {default : α}
      (below : defaults.toJson.member? key = some (writer default))
      (fits : ∀ module, fitsItsName (key, module) = (reader module).isSome) :
      (Dict.get? key
          (Dict.overlay modules ((mergedModules modules overrides).filter fitsItsName))).bind reader =
        some (settle reader writer default (Dict.get? key overrides)) := by
    have offered : Dict.get? key (mergedModules modules overrides) =
        some (mergeModule (writer default).sorted (Dict.get? key overrides)) := by
      rw [mergedModules, Dict.get?_map, lower key _ below, Option.map_some]
    rw [bind_overlay_filter distinct (lower.bind agree.agree key below) offered (fits _),
      getD_mergeModule agree]
  exact ⟨settles (agreeOnRecords_text 0) rfl fun _ => by simp [fitsItsName],
    settles (agreeOnRecords_system 0) rfl fun _ => by simp [fitsItsName],
    settles (agreeOnRecords_runtime 0) rfl fun _ => by simp [fitsItsName],
    settles (agreeOnRecords_results 0) rfl fun _ => by simp [fitsItsName]⟩

theorem ofJson?_adopt (defaults : Session) (persisted : Json) :
    Session.ofJson? (adopt defaults.toJson.sorted (merge defaults.toJson.sorted persisted)) =
      some { settled defaults (some persisted) with credential := .absent } := by
  obtain ⟨modules, below, ordered, lower⟩ := sorted_toJson defaults
  have adopted (overrides : Dict Json) :
      Session.ofJson? (adopt (.object modules) (.object (mergedModules modules overrides))) =
        some { settled defaults (some (.object overrides)) with credential := .absent } := by
    have tree : adopt (.object modules) (.object (mergedModules modules overrides)) =
        .object (Dict.overlay modules ((mergedModules modules overrides).filter fitsItsName)) :=
      foldl_adoptModule_eq _ (Session.holds_of_covers lower)
    rw [tree, (holds_adopted ordered lower).ofJson?]
  rw [below]
  cases persisted with
  | object overrides => exact adopted overrides
  | _ =>
      -- A tree that is no object counts as one without modules.
      have same : mergedModules modules [] = modules := by
        simp [mergedModules, mergeModule]
      have bare := adopted []
      rw [same] at bare
      exact bare

/-- Whether the stored text is neither blank nor JSON. -/
def isCorrupt (stored : Option String) : Bool :=
  stored.any fun text => !Text.isAllBlank text && (Json.parse? text).isNone

theorem read_eq (defaults : Session) (stored : Option String) :
    read defaults stored =
      if isCorrupt stored then .error .corrupt
      else .ok (settled defaults (storedTree? stored)) := by
  cases stored with
  | none => rfl
  | some text =>
      by_cases blank : Text.isAllBlank text = true
      · simp only [read, isCorrupt, storedTree?, Option.any_some, Option.bind_eq_bind,
          Option.bind_some, blank, Bool.not_true, Bool.false_and, Bool.false_eq_true, if_true, if_false]
        rfl
      · cases parsed : Json.parse? text with
        | none => simp [read, isCorrupt, blank, parsed]
        | some persisted =>
            simp only [read, isCorrupt, storedTree?, Option.any_some, Option.bind_eq_bind,
              Option.bind_some, blank, parsed, ofJson?_adopt, Option.isNone_some, Bool.and_false,
              Bool.false_eq_true, if_false]
            rfl

/-! ## Storage -/

/-- Restoring from any storage over any defaults fails exactly when the storage cannot be read or
holds a text that is neither blank nor JSON; it never fails for the shape of what is stored.
Otherwise each module of the session is what the default module and the stored one of the same name
come to, and the credential is that of the defaults. -/
theorem restore_isolates_modules {σ : Type} [KeyValueStore σ] (storage : σ) (defaults : Session) :
    restore storage defaults =
      match KeyValueStore.get storage key with
      | .error failure => .error (.storage failure)
      | .ok stored =>
          if isCorrupt stored then .error .corrupt
          else .ok (settled defaults (storedTree? stored)) := by
  rw [restore]
  cases KeyValueStore.get storage key with
  | error failure => rfl
  | ok stored => exact read_eq defaults stored

end Snapshot
end ProbeWatch
