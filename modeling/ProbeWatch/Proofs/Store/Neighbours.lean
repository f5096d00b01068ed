import ProbeWatch.Proofs.Store.Writing

/-!
# Stores side by side

A store uses three files, whose names differ in what follows the stem of the state file alone.  So
the stores of two state files keep out of each other's way unless they lie in the same directory and
have the same stem, and a store keeps out of the way of its own state file unless that ends like one
of the other two.
-/

namespace ProbeWatch.FileStore

open Disk (Distinct Changes found?)
open ProbeWatch.Path (hasOwnName frontNames lastName stem)

/-! ## Three names with one stem -/

/-- The paths of the files that a store uses. -/
def files (path : String) : List String := [path, tempPath path, backupPath path]

/-- Whether the last name of a path ends like this, with something in front. -/
def EndsIn (ending : String) (path : String) : Prop :=
  ∃ front, front ≠ [] ∧ lastName path.toList = front ++ ending.toList

/-- Whether two paths lie in the same directory, by their text, and have the same stem. -/
def Kin (path other : String) : Prop :=
  frontNames path = frontNames other ∧ stem (lastName path.toList) = stem (lastName other.toList)

section

variable {path other file : String}

theorem lastName_ne_nil (own : hasOwnName path = true) : lastName path.toList ≠ [] := by
  intro none
  rw [hasOwnName, none] at own
  cases own

theorem names_withExtension_eq_iff (own : hasOwnName path = true) {extension ending : String}
    (dotted : ending.toList = '.' :: extension.toList) (plain : '/' ∉ extension.toList)
    (single : '.' ∉ extension.toList) (nonempty : extension.toList ≠ []) :
    Path.names (Path.withExtension extension path) = Path.names path ↔ EndsIn ending path := by
  have named := lastName_ne_nil own
  rw [Path.names_withExtension own plain nonempty, Path.names_of_hasOwnName own,
    List.append_cancel_left_eq, List.singleton_inj, String.ofList_inj, EndsIn, dotted]
  constructor
  · exact fun same => ⟨_, Path.stem_ne_nil named, same.symm⟩
  · rintro ⟨front, filled, cut⟩
    rw [cut, Path.stem_append filled single]

theorem names_temp_ne_backup (own : hasOwnName path = true) :
    Path.names (tempPath path) ≠ Path.names (backupPath path) := by
  rw [tempPath, backupPath, Path.names_withExtension own (by decide) (by decide),
    Path.names_withExtension own (by decide) (by decide)]
  intro same
  rw [List.append_cancel_left_eq, List.singleton_inj, String.ofList_inj,
    List.append_cancel_left_eq] at same
  exact absurd same (by decide)

/-- The three files of a store are three files unless the state file ends like one of the others. -/
theorem apart_iff (own : hasOwnName path = true) :
    Apart path ↔ ¬ EndsIn ".tmp" path ∧ ¬ EndsIn ".backup" path := by
  have temp : Path.names (tempPath path) = Path.names path ↔ EndsIn ".tmp" path :=
    names_withExtension_eq_iff own (by decide) (by decide) (by decide) (by decide)
  have backup : Path.names (backupPath path) = Path.names path ↔ EndsIn ".backup" path :=
    names_withExtension_eq_iff own (by decide) (by decide) (by decide) (by decide)
  constructor
  · exact fun apart => ⟨mt temp.mpr apart.temp, mt backup.mpr apart.backup⟩
  · exact fun ⟨other, other'⟩ =>
      ⟨mt temp.mp other, mt backup.mp other', names_temp_ne_backup own⟩

theorem names_of_mem_files (own : hasOwnName path = true) (among : file ∈ files path) :
    ∃ name, Path.names file = frontNames path ++ [String.ofList name] ∧ name ≠ Path.above ∧
      stem name = stem (lastName path.toList) := by
  have named := Path.stem_ne_nil (lastName_ne_nil own)
  have extended {extension : String} (plain : '/' ∉ extension.toList)
      (single : '.' ∉ extension.toList) (long : 1 < extension.toList.length) :
      ∃ name, Path.names (Path.withExtension extension path) =
          frontNames path ++ [String.ofList name] ∧ name ≠ Path.above ∧
        stem name = stem (lastName path.toList) := by
    have nonempty : extension.toList ≠ [] := List.ne_nil_of_length_pos (by omega)
    refine ⟨_, Path.names_withExtension own plain nonempty, fun up => ?_,
      Path.stem_append named single⟩
    have short := congrArg List.length up
    have two : Path.above.length = 2 := rfl
    rw [List.length_append, List.length_cons] at short
    omega
  rw [files, List.mem_cons, List.mem_cons, List.mem_singleton] at among
  rcases among with rfl | rfl | rfl
  · refine ⟨_, Path.names_of_hasOwnName own, fun up => ?_, rfl⟩
    rw [hasOwnName, up] at own
    simp at own
  · exact extended (by decide) (by decide) (by decide)
  · exact extended (by decide) (by decide) (by decide)

/-- Two stores share a file exactly if their state files are kin. -/
theorem share_file_iff (own : hasOwnName path = true) (own' : hasOwnName other = true) :
    (∃ file ∈ files path, ∃ file' ∈ files other, Path.names file = Path.names file') ↔
      Kin path other := by
  constructor
  · rintro ⟨file, among, file', among', same⟩
    obtain ⟨name, names, -, stem⟩ := names_of_mem_files own among
    obtain ⟨name', names', -, stem'⟩ := names_of_mem_files own' among'
    rw [names, names'] at same
    obtain ⟨front, last⟩ := List.append_inj' same rfl
    rw [List.singleton_inj, String.ofList_inj] at last
    exact ⟨front, by rw [← stem, ← stem', last]⟩
  · rintro ⟨front, stem⟩
    refine ⟨tempPath path, by simp [files], tempPath other, by simp [files], ?_⟩
    rw [tempPath, tempPath, Path.names_withExtension own (by decide) (by decide),
      Path.names_withExtension own' (by decide) (by decide), front, stem]

/-! ## Files that never meet -/

/-- Whether two paths tell by their text alone that their stores never meet on any disk: they have
different stems, or their directories are different and neither path leads up. -/
def Separate (path other : String) : Prop :=
  stem (lastName path.toList) ≠ stem (lastName other.toList) ∨
    (".." ∉ frontNames path ∧ ".." ∉ frontNames other ∧ frontNames path ≠ frontNames other)

theorem separate_iff (straight : ".." ∉ frontNames path) (straight' : ".." ∉ frontNames other) :
    Separate path other ↔ ¬ Kin path other := by
  rw [Separate, Kin, not_and_or, or_comm]
  exact or_congr_left ⟨fun apart => apart.2.2, fun apart => ⟨straight, straight', apart⟩⟩

theorem Separate.distinct (separate : Separate path other) (own : hasOwnName path = true)
    (own' : hasOwnName other = true) {file' : String} (among : file ∈ files path)
    (among' : file' ∈ files other) : Distinct file file' := by
  obtain ⟨name, names, down, stem⟩ := names_of_mem_files own among
  obtain ⟨name', names', down', stem'⟩ := names_of_mem_files own' among'
  have up (name : List Char) (down : name ≠ Path.above) : String.ofList name ≠ ".." :=
    fun same => down (String.ofList_injective same)
  rcases separate with stems | ⟨straight, straight', fronts⟩
  · refine Disk.distinct_of_last_names names names' (up name down) (up name' down') fun same => ?_
    rw [← stem, ← stem', String.ofList_injective same] at stems
    exact stems rfl
  · refine Disk.distinct_of_straight ?_ ?_ fun same => ?_
    · rw [names, List.mem_append, List.mem_singleton, not_or]
      exact ⟨straight, Ne.symm (up name down)⟩
    · rw [names', List.mem_append, List.mem_singleton, not_or]
      exact ⟨straight', Ne.symm (up name' down')⟩
    · rw [names, names'] at same
      exact fronts (List.append_inj' same rfl).1

end

/-! ## What the calls of a store leave alone -/

section

variable {store : FileStore} {file : String}

theorem found?_step (store : FileStore) (fault : Option Fault) (call : Call)
    (distinct : ∀ own ∈ files store.path, Distinct own file) :
    (store.step fault call).2.disk.found? file = store.disk.found? file := by
  have state := distinct store.path (by simp [files])
  have temp := distinct (tempPath store.path) (by simp [files])
  have backup := distinct (backupPath store.path) (by simp [files])
  by_cases backing : call = .backUp
  · subst backing
    obtain ⟨after, same, kept | ⟨content, changes⟩⟩ := step_backUp store fault
    · rw [same, kept]
    · rw [same]
      exact changes.others file backup
  by_cases moving : call = .moveTemp
  · subst moving
    rcases step_moveTemp store fault with ⟨after, moved, same⟩ | ⟨failure, same⟩
    · rw [same]
      exact Disk.found?_rename_of_distinct moved temp state
    · rw [same]
  rcases touches_step store fault backing moving with same | ⟨content, changes⟩
  · rw [same]
  · exact changes.others file temp

/-- Whatever faults a call meets, it touches none but the three files of its store. -/
theorem found?_run (faults : Nat → Option Fault) (call : Call) (store : FileStore)
    (distinct : ∀ own ∈ files store.path, Distinct own file) :
    (run faults call store).2.disk.found? file = store.disk.found? file := by
  fun_induction run faults call store with
  | case1 => rfl
  | case2 call store unfinished next ih =>
      have path := (effect_step store (faults call.rank) call).path_now.1
      exact (ih (path ▸ distinct)).trans (found?_step store _ call distinct)

theorem found?_openAt {disk : Disk} {path : String} (room : makeRoom disk path = (disk, .ok ()))
    (distinct : Distinct path file) (now : Moment) :
    (openAt disk path now).1.found? file = disk.found? file := by
  have copied : (recover disk path).1.found? file = disk.found? file := by
    rw [recover]
    split
    · split
      · cases done : disk.copy (backupPath path) path none with
        | error error => rfl
        | ok after =>
            obtain ⟨content, changes⟩ := Disk.changes_of_copy done
            exact changes.others file distinct
      · rfl
    · rfl
  rw [openAt, read, room]
  dsimp only
  split
  · rfl
  · rfl
  · dsimp only
    exact copied

/-- What a store is restored from are its own files. -/
theorem entries_openAt_congr {disk after : Disk} {path : String}
    (room : makeRoom disk path = (disk, .ok ())) (room' : makeRoom after path = (after, .ok ()))
    (same : ∀ own ∈ files path, after.found? own = disk.found? own) (now : Moment) :
    (openAt after path now).2.map entries = (openAt disk path now).2.map entries := by
  have state := load_congr (same path (by simp [files]))
  have spare := same (backupPath path) (by simp [files])
  have there : after.leadsSomewhere (backupPath path) = disk.leadsSomewhere (backupPath path) :=
    congrArg Option.isSome spare
  have recovered : (recover after path).2 = (recover disk path).2 := by
    rw [recover, recover, there, load_congr spare]
    split
    · split <;> rfl
    · rfl
  rw [openAt, openAt, read, read, room, room']
  dsimp only
  rw [state]
  cases load disk path with
  | error failure => rfl
  | ok loaded =>
      cases loaded with
      | some entries => rfl
      | none =>
          dsimp only [Except.map]
          rw [recovered]

/-- A step leaves the state file of its store as it was, or it puts there what the temporary file
held. -/
theorem own_step (apart : Apart store.path) (fault : Option Fault) (call : Call) :
    (store.step fault call).2.disk.found? store.path = store.disk.found? store.path ∨
      ∃ content, store.disk.found? (tempPath store.path) = some (.file content) ∧
        (store.step fault call).2.disk.found? store.path = some (.file content) := by
  by_cases moved : (store.step fault call).1 = .release (.ok ())
  · have effect := effect_step store fault call
    rw [moved] at effect
    obtain rfl := effect.eq_moveTemp
    rcases step_moveTemp store fault with ⟨after, renamed, same⟩ | ⟨failure, same⟩
    · have distinct := apart.beside_temp.distinct apart.beside_self apart.temp
      rw [same]
      exact .inr (Disk.found?_rename distinct renamed).2.1
    · rw [same]
      exact .inl rfl
  · exact .inl ((spares_step apart fault moved).found? apart)

end

/-! ## Stores that keep out of each other's way -/

/-- What the files of two stores have to do with each other.  The three files of one store are three
files exactly if the state file does not end like the temporary file or the backup; then no step of
a call touches the state file but the one that moves the temporary file there.  The stores share a
file exactly if their state files lie in the same directory and have the same stem.  If the paths
are separate, then whatever a store is asked and whatever faults it meets, it leaves all files of
the other one alone, and so does the opening of a store whose directory is there; and the entries
that a store is opened with come from its own files. -/
theorem stores_are_apart_but_for_stems {path other : String} (own : hasOwnName path = true)
    (own' : hasOwnName other = true) :
    (Apart path ↔ ¬ EndsIn ".tmp" path ∧ ¬ EndsIn ".backup" path) ∧
      (Apart path → ∀ store : FileStore, store.path = path → ∀ fault call,
        (store.step fault call).2.disk.found? path = store.disk.found? path ∨
          ∃ content, store.disk.found? (tempPath path) = some (.file content) ∧
            (store.step fault call).2.disk.found? path = some (.file content)) ∧
      ((∃ file ∈ files path, ∃ file' ∈ files other, Path.names file = Path.names file') ↔
        Kin path other) ∧
      (".." ∉ frontNames path → ".." ∉ frontNames other →
        (Separate path other ↔ ¬ Kin path other)) ∧
      (Separate path other → ∀ file ∈ files other,
        (∀ store : FileStore, store.path = path → ∀ faults call,
          (run faults call store).2.disk.found? file = store.disk.found? file) ∧
        ∀ disk now, makeRoom disk path = (disk, .ok ()) →
          (openAt disk path now).1.found? file = disk.found? file) ∧
      ∀ disk after now, makeRoom disk path = (disk, .ok ()) →
        makeRoom after path = (after, .ok ()) →
        (∀ file ∈ files path, after.found? file = disk.found? file) →
          (openAt after path now).2.map entries = (openAt disk path now).2.map entries := by
  refine ⟨apart_iff own, ?_, share_file_iff own own', separate_iff, ?_,
    fun disk after now room room' same => entries_openAt_congr room room' same now⟩
  · rintro apart store rfl fault call
    exact own_step apart fault call
  · intro separate file among
    have distinct : ∀ mine ∈ files path, Distinct mine file := fun mine found =>
      separate.distinct own own' found among
    refine ⟨?_, fun disk now room => found?_openAt room (distinct path (by simp [files])) now⟩
    rintro store rfl faults call
    exact found?_run faults call store distinct

/-- Two state files in one directory: no call on the first one touches the files of the second. -/
theorem state_files_beside_each_other :
    hasOwnName "run/state.json" = true ∧ hasOwnName "run/other.json" = true ∧
      Apart "run/state.json" ∧ Separate "run/state.json" "run/other.json" ∧
      ∀ store : FileStore, store.path = "run/state.json" → ∀ faults call,
        (run faults call store).2.disk.found? "run/other.tmp" =
          store.disk.found? "run/other.tmp" := by
  have own : hasOwnName "run/state.json" = true := by decide
  have own' : hasOwnName "run/other.json" = true := by decide
  have separate : Separate "run/state.json" "run/other.json" := .inl (by decide)
  have temp : "run/other.tmp" ∈ files "run/other.json" := by decide
  obtain ⟨-, -, -, -, leaves, -⟩ := stores_are_apart_but_for_stems own own'
  exact ⟨own, own', by decide, separate, (leaves separate _ temp).1⟩

/-! ## Stores that get in the way -/

theorem createTemp_truncates {store : FileStore} {file : String} (same : tempPath store.path = file)
    {content : ByteArray} (held : store.disk.found? file = some (.file content)) (text : String) :
    (store.step none (.createTemp text)).2.disk.found? file = some (.file .empty) := by
  subst same
  obtain ⟨after, created⟩ := Disk.exists_write held .empty
  have stepped : (store.step none (.createTemp text)).2 = { store with disk := after } := by
    rw [step, Disk.create, created]
    rfl
  rw [stepped]
  exact (Disk.changes_of_write created).file

/-- A state file may be its own backup, or its own temporary file, which the first step of a write
empties; and two state files may share both of these, so that a write on one store destroys what the
other one was about to move to its state file. -/
theorem stores_share_files :
    (hasOwnName "state.backup" = true ∧ backupPath "state.backup" = "state.backup") ∧
      (hasOwnName "state.tmp" = true ∧ tempPath "state.tmp" = "state.tmp" ∧
        ∀ store : FileStore, store.path = "state.tmp" → ∀ content text,
          store.disk.found? "state.tmp" = some (.file content) →
            (store.step none (.createTemp text)).2.disk.found? "state.tmp" =
              some (.file .empty)) ∧
      hasOwnName "a.json" = true ∧ hasOwnName "a.txt" = true ∧
      Path.names "a.json" ≠ Path.names "a.txt" ∧ backupPath "a.json" = backupPath "a.txt" ∧
      tempPath "a.json" = tempPath "a.txt" ∧
      ∀ store : FileStore, store.path = "a.json" → ∀ content text,
        store.disk.found? (tempPath "a.txt") = some (.file content) →
          (store.step none (.createTemp text)).2.disk.found? (tempPath "a.txt") =
            some (.file .empty) := by
  have itself : tempPath "state.tmp" = "state.tmp" := by decide
  have shared : tempPath "a.json" = tempPath "a.txt" := by decide
  refine ⟨by decide, ⟨by decide, itself, ?_⟩, by decide, by decide, by decide, by decide, shared, ?_⟩
  · intro store path content text held
    exact createTemp_truncates ((congrArg tempPath path).trans itself) held text
  · intro store path content text held
    exact createTemp_truncates ((congrArg tempPath path).trans shared) held text

end ProbeWatch.FileStore
