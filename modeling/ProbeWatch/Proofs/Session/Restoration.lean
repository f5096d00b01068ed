import ProbeWatch.Proofs.Session.Tree
import ProbeWatch.Proofs.Store.Faithful
import ProbeWatch.Proofs.Text.Blank
import ProbeWatch.Session.Snapshot

/-!
# Restored sessions

A snapshot that is laid over any defaults reads as the session that it was taken of.  The modules
are adopted one at a time, and every tree on the way reads as a session.
-/

namespace ProbeWatch

open Json
open Session (Holds)

namespace Snapshot

/-! ## The merged tree -/

theorem reads_mergeModule {α : Type} {reader : Json → Option α} {writer : α → Json} {depth : Nat}
    (agree : AgreeOnRecords reader writer depth) (default value : α) :
    reader (mergeModule (writer default).sorted (some (writer value).sorted)) = some value := by
  obtain ⟨lower, below, -⟩ := agree.reads_overlay default
  obtain ⟨upper, above, reads⟩ := agree.reads_overlay value
  rw [below, above]
  exact reads lower

/-- The modules of the defaults under those of a persisted tree. -/
def mergedModules (modules overrides : Dict Json) : Dict Json :=
  modules.map fun pair => (pair.1, mergeModule pair.2 (Dict.get? pair.1 overrides))

theorem bind_mergedModules {α : Type} {reader : Json → Option α} {writer : α → Json} {depth : Nat}
    (agree : AgreeOnRecords reader writer depth) {modules overrides : Dict Json} {name : String}
    {default value : α} (held : Dict.get? name modules = some (writer default).sorted)
    (persisted : Dict.get? name overrides = some (writer value).sorted) :
    (Dict.get? name (mergedModules modules overrides)).bind reader = some value := by
  rw [mergedModules, Dict.get?_map, held]
  change reader (mergeModule _ (Dict.get? name overrides)) = some value
  rw [persisted]
  exact reads_mergeModule agree default value

theorem holds_mergedModules {modules overrides : Dict Json} {defaults session : Session}
    (lower : Covers modules defaults.toJson) (upper : Covers overrides session.toJson) :
    Holds (mergedModules modules overrides) session where
  text := bind_mergedModules (agreeOnRecords_text 0) (lower "text" _ rfl) (upper "text" _ rfl)
  system := bind_mergedModules (agreeOnRecords_system 0) (lower "system" _ rfl)
    (upper "system" _ rfl)
  runtime := bind_mergedModules (agreeOnRecords_runtime 0) (lower "runtimeConfig" _ rfl)
    (upper "runtimeConfig" _ rfl)
  results := bind_mergedModules (agreeOnRecords_results 0) (lower "results" _ rfl)
    (upper "results" _ rfl)

/-! ## Adoption -/

/-- A field is still read after a module of a tree that reads was put into the dictionary. -/
theorem exists_bind_insert {α : Type} {reader : Json → Option α} {tree merged : Dict Json}
    {name key : String} {module : Json} {current target : α}
    (held : (Dict.get? key tree).bind reader = some current)
    (offered : (Dict.get? key merged).bind reader = some target)
    (found : Dict.get? name merged = some module) :
    ∃ value, (Dict.get? key (Dict.insert name module tree)).bind reader = some value := by
  by_cases same : key = name
  · subst same
    rw [found] at offered
    exact ⟨target, by rw [Dict.get?_insert_self]; exact offered⟩
  · exact ⟨current, by rw [Dict.get?_insert_of_ne same]; exact held⟩

/-- A tree that reads still does with one module of another such tree in its place. -/
theorem exists_holds_insert {tree merged : Dict Json} {current target : Session}
    (holds : Holds tree current) (offers : Holds merged target) {name : String} {module : Json}
    (found : Dict.get? name merged = some module) :
    ∃ next, Holds (Dict.insert name module tree) next := by
  obtain ⟨text, textHeld⟩ := exists_bind_insert holds.text offers.text found
  obtain ⟨system, systemHeld⟩ := exists_bind_insert holds.system offers.system found
  obtain ⟨runtime, runtimeHeld⟩ := exists_bind_insert holds.runtime offers.runtime found
  obtain ⟨results, resultsHeld⟩ := exists_bind_insert holds.results offers.results found
  exact ⟨⟨.absent, text, system, runtime, results⟩, textHeld, systemHeld, runtimeHeld, resultsHeld⟩

theorem adoptModule_of_holds {tree merged : Dict Json} {current target : Session}
    (holds : Holds tree current) (offers : Holds merged target) {module : String × Json}
    (found : Dict.get? module.1 merged = some module.2) :
    adoptModule (.object tree) module = .object (Dict.insert module.1 module.2 tree) := by
  obtain ⟨next, reads⟩ := exists_holds_insert holds offers found
  rw [adoptModule, reads.ofJson?, Option.isSome_some, if_pos rfl]

theorem foldl_adoptModule {merged : Dict Json} {target : Session} (offers : Holds merged target)
    (modules : List (String × Json))
    (within : ∀ module ∈ modules, Dict.get? module.1 merged = some module.2)
    {tree : Dict Json} {current : Session} (holds : Holds tree current) :
    modules.foldl adoptModule (.object tree) = .object (Dict.overlay tree modules) := by
  induction modules generalizing tree current with
  | nil => rfl
  | cons module modules ih =>
      have found := within module List.mem_cons_self
      obtain ⟨next, reads⟩ := exists_holds_insert holds offers found
      rw [List.foldl_cons, adoptModule_of_holds holds offers found]
      exact ih (fun other later => within other (List.mem_cons_of_mem module later)) reads

/-- What a tree reads as does not depend on what it is laid over. -/
theorem holds_overlay {upper : Dict Json} {session : Session} (holds : Holds upper session)
    (distinct : upper.keys.Nodup) (lower : Dict Json) :
    Holds (Dict.overlay lower upper) session := by
  have kept {α : Type} {reader : Json → Option α} {key : String} {value : α}
      (held : (Dict.get? key upper).bind reader = some value) :
      (Dict.get? key (Dict.overlay lower upper)).bind reader = some value := by
    obtain ⟨json, found, reads⟩ := Option.bind_eq_some_iff.mp held
    rw [Dict.get?_overlay distinct, found]
    exact reads
  exact ⟨kept holds.text, kept holds.system, kept holds.runtime, kept holds.results⟩

/-- A tree that reads is adopted whole, over every other tree that reads. -/
theorem adopt_of_holds {tree merged : Dict Json} {current target : Session}
    (holds : Holds tree current) (offers : Holds merged target) (distinct : merged.keys.Nodup) :
    adopt (.object tree) (.object merged) = .object (Dict.overlay tree merged) :=
  foldl_adoptModule offers merged (fun _ held => Dict.get?_of_mem distinct held) holds

/-! ## Snapshots -/

theorem sorted_toJson (session : Session) :
    ∃ tree, session.toJson.sorted = .object tree ∧ Dict.Ordered tree ∧ Covers tree session.toJson := by
  obtain ⟨members, written, distinct, -⟩ := session.members_toJson
  refine ⟨Dict.ofPairs (sortedMembers members), ?_, Dict.ordered_ofPairs _, ?_⟩
  · rw [written, sorted]
  · exact written ▸ covers_ofPairs distinct

theorem parse?_text (session : Session) :
    Json.parse? (text session) = some session.toJson.sorted := by
  obtain ⟨members, written, -, each⟩ := session.members_toJson
  have fits : Fits 4 session.toJson := written ▸ fits_object each
  exact parse?_compact fits.1 (Nat.le_trans fits.2 (by decide))

theorem isAllBlank_text (session : Session) : Text.isAllBlank (text session) = false := by
  have brace : '\x7b' ∈ (text session).toList := by
    rw [text, Json.compact, String.toList_ofList]
    exact List.mem_cons_self
  refine Bool.eq_false_iff.mpr fun blank => ?_
  exact absurd (Text.isAllBlank_iff.mp blank _ brace) (by decide)

theorem read_text (defaults session : Session) :
    read defaults (some (text session)) =
      .ok { session with credential := defaults.credential } := by
  obtain ⟨modules, below, ordered, lower⟩ := sorted_toJson defaults
  obtain ⟨overrides, above, -, upper⟩ := sorted_toJson session
  have offers := holds_mergedModules lower upper
  have distinct : (mergedModules modules overrides).keys.Nodup := by
    rw [mergedModules, Dict.keys_map]
    exact ordered.distinct
  have merged : merge (.object modules) (.object overrides) =
      .object (mergedModules modules overrides) := rfl
  have adopted := adopt_of_holds (Session.holds_of_covers lower) offers distinct
  have reads := (holds_overlay offers distinct modules).ofJson?
  rw [← adopted, ← merged] at reads
  rw [read, isAllBlank_text, if_neg Bool.false_ne_true, parse?_text, above, below]
  simp only [reads]

/-! ## Storage -/

variable {σ : Type} [KeyValueStore σ]

/-- A session that was written to faithful storage, as every file store is, is restored whole over
any defaults, which keep only their credential. -/
theorem restore_of_write {storage after : σ} (faithful : KeyValueStore.Faithful storage)
    {session : Session} (written : write storage session = (after, .ok ())) (defaults : Session) :
    restore after defaults = .ok { session with credential := defaults.credential } := by
  have held : KeyValueStore.get after key = .ok (some (text session)) := by
    rw [write] at written
    split at written
    · cases congrArg Prod.snd written
    · rename_i put
      exact faithful key (text session) _ after put written
  rw [restore, held]
  exact read_text defaults session

/-- A session with an escaped domain, the extreme integers and an error, over stale defaults. -/
theorem restore_of_extreme_session :
    let session : Session := {
      text := { domain := "\"\n\\ \u007f 🧿" }
      system := { apiError := some ⟨65535, .rateLimited, "\x00"⟩ }
      results := {
        dnsResults := [{ ip := "::1" }, {}]
        records := [{ id := .minValue, timestamp := .maxValue }]
        recordsTotal := 18446744073709551615
        tokenStatus := some { status := .hit, expired := true } } }
    let defaults : Session := {
      credential := ⟨"secret", .environment⟩
      text := { domain := "stale" }
      results := { records := [{}, {}], error := "stale" } }
    let after : MemoryStore := ⟨[(key, text session)], []⟩
    write (⟨[], []⟩ : MemoryStore) session = (after, .ok ()) ∧
      restore after defaults = .ok { session with credential := defaults.credential } := by
  intro session defaults after
  have written : write (⟨[], []⟩ : MemoryStore) session = (after, .ok ()) := rfl
  exact ⟨written, restore_of_write (MemoryStore.faithful fun _ => rfl) written defaults⟩

end Snapshot
end ProbeWatch
