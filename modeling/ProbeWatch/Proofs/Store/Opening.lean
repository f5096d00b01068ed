import ProbeWatch.Proofs.Disk.Files
import ProbeWatch.Proofs.Store.Format
import ProbeWatch.Store.File.Call

/-!
# State files that open

What a state file is read as depends only on what its path leads to.  Where a store was opened on a
state file that was not there or decodes, opening once more changes nothing and gives the same
entries.
-/

namespace ProbeWatch.FileStore

open StateFile (StoredText Sound encode decode?)
open Disk (SameDirectories Distinct found?)

/-! ## Three paths -/

/-- Whether the state file, the temporary file and the backup are three files.  Paths are told apart
by their names, as a slash at the end of a path leads to no other place. -/
structure Apart (path : String) : Prop where
  temp : Path.names (tempPath path) ≠ Path.names path
  backup : Path.names (backupPath path) ≠ Path.names path
  both : Path.names (tempPath path) ≠ Path.names (backupPath path)

instance (path : String) : Decidable (Apart path) :=
  decidable_of_iff (Path.names (tempPath path) ≠ Path.names path ∧
      Path.names (backupPath path) ≠ Path.names path ∧
      Path.names (tempPath path) ≠ Path.names (backupPath path))
    ⟨fun ⟨temp, backup, both⟩ => ⟨temp, backup, both⟩,
      fun ⟨temp, backup, both⟩ => ⟨temp, backup, both⟩⟩

/-- Whether a path is that of a file beside the state file, or of the state file. -/
structure Beside (path file : String) : Prop where
  /-- The path differs at most in the last name. -/
  names : ∃ name, Path.names file = Path.frontNames path ++ [name] ∧ name ≠ ".."
  /-- What stands in front of the last name is part of the path. -/
  front : ∀ c ∈ Path.beforeLastName path.toList, c ∈ file.toList

namespace Apart

variable {path : String}

theorem hasOwnName (apart : Apart path) : Path.hasOwnName path = true := by
  by_contra none
  have none := Bool.eq_false_iff.mpr none
  exact apart.temp (by rw [tempPath, Path.withExtension_of_not_hasOwnName none])

theorem beside_self (apart : Apart path) : Beside path path where
  names := by
    refine ⟨_, Path.names_of_hasOwnName apart.hasOwnName, fun up => ?_⟩
    have own := apart.hasOwnName
    rw [Path.hasOwnName, Bool.and_eq_true, bne_iff_ne] at own
    exact own.2 (String.ofList_injective up)
  front c found := by
    refine Path.mem_of_mem_trimEnd ?_
    rw [Path.trimEnd_eq]
    exact List.mem_append_left _ found

theorem beside_withExtension (apart : Apart path) {extension : String}
    (plain : '/' ∉ extension.toList) (long : 1 < extension.toList.length) :
    Beside path (Path.withExtension extension path) where
  names := by
    have nonempty : extension.toList ≠ [] := List.ne_nil_of_length_pos (by omega)
    refine ⟨_, Path.names_withExtension apart.hasOwnName plain nonempty, fun up => ?_⟩
    have short := congrArg (fun name => name.toList.length) up
    simp only [String.toList_ofList, List.length_append, List.length_cons] at short
    have two : "..".toList.length = 2 := rfl
    omega
  front c found := by
    have own := apart.hasOwnName
    rw [Path.hasOwnName] at own
    rw [Path.withExtension, if_pos own, String.toList_ofList, List.append_assoc]
    exact List.mem_append_left _ found

theorem beside_temp (apart : Apart path) : Beside path (tempPath path) :=
  apart.beside_withExtension (by decide) (by decide)

theorem beside_backup (apart : Apart path) : Beside path (backupPath path) :=
  apart.beside_withExtension (by decide) (by decide)

end Apart

theorem Beside.distinct {path file other : String} (beside : Beside path file)
    (beside' : Beside path other) (different : Path.names file ≠ Path.names other) :
    Distinct file other := by
  obtain ⟨name, names, down⟩ := beside.names
  obtain ⟨name', names', down'⟩ := beside'.names
  refine Disk.distinct_of_names names names' down down' fun same => different ?_
  rw [names, names', same]

/-! ## Reading -/

section

variable {disk after : Disk} {path : String}

theorem fromUTF8?_toUTF8 (text : String) : String.fromUTF8? text.toUTF8 = some text := by
  have valid : text.toUTF8.IsValidUTF8 := text.isValidUTF8
  rw [String.fromUTF8?, dif_pos valid]
  rfl

theorem load_of_found? {text : String} (found : disk.found? path = some (.file text.toUTF8)) :
    load disk path = .ok (decode? text) := by
  have looked := Disk.toOption_eq_some.mp found
  have read : disk.readText path = .ok text := by
    rw [Disk.readText, Disk.read, looked]
    simp only [bind, Except.bind, pure, Except.pure, fromUTF8?_toUTF8]
  rw [load, if_pos (Disk.leadsSomewhere_iff.mpr ⟨_, found⟩), read]

/-- What a state file is read as depends only on what its path leads to. -/
theorem load_congr (same : after.found? path = disk.found? path) :
    load after path = load disk path := by
  rw [load, load, Disk.leadsSomewhere, Disk.leadsSomewhere, ← found?, ← found?, same]
  split
  · rename_i there
    obtain ⟨entry, found⟩ := Option.isSome_iff_exists.mp there
    have looked := Disk.toOption_eq_some.mp found
    have looked' := Disk.toOption_eq_some.mp (same.trans found)
    rw [Disk.readText, Disk.readText, Disk.read, Disk.read, looked, looked']
  · rfl

theorem makeRoom_of_found? {file : String} {entry : Entry} (beside : Beside path file)
    (found : disk.found? file = some entry) : makeRoom disk path = (disk, .ok ()) := by
  rw [makeRoom]
  split
  · rfl
  · rename_i parent inside
    split
    · rfl
    · rename_i missing
      rw [Bool.or_eq_true, not_or] at missing
      refine absurd ?_ missing.2
      obtain ⟨place, located, -⟩ := Disk.found?_eq_some_iff.mp found
      have reached := (Disk.locate_eq_ok_iff.mp located).1
      obtain ⟨name, names, down⟩ := beside.names
      rw [← Path.names_of_parent? inside] at names
      refine Disk.leadsSomewhere_of_reach? names down (fun nul => ?_)
        (Bool.eq_false_iff.mpr missing.1) reached
      exact Disk.nul_notMem_of_reach? reached
        (beside.front _ (Path.mem_of_mem_parent? inside nul))

theorem makeRoom_again (made : makeRoom disk path = (after, .ok ())) :
    makeRoom after path = (after, .ok ()) := by
  rw [makeRoom] at made ⊢
  split at made
  · cases made
    rfl
  · rename_i parent inside
    split at made
    · rename_i there
      cases made
      exact if_pos there
    · rename_i missing
      rw [Bool.or_eq_true, not_or] at missing
      refine if_pos (Bool.or_eq_true .. |>.mpr (.inr ?_))
      have nonempty := Bool.eq_false_iff.mpr missing.1
      have outcome : (disk.makeDirectories parent).2 = .ok () := by
        cases ended : (disk.makeDirectories parent).2 with
        | ok => rfl
        | error error =>
            have failed := congrArg Prod.snd made
            simp only [ended, Except.mapError] at failed
            cases failed
      have same : (disk.makeDirectories parent).1 = after := congrArg Prod.fst made
      rw [← same]
      exact Disk.leadsSomewhere_of_makeDirectories nonempty outcome

/-! ## Opening -/

/-- Whether opening a state file gives the entries and leaves the disk alone. -/
structure Holds (path : String) (disk : Disk) (entries : Dict StoredText) : Prop where
  room : makeRoom disk path = (disk, .ok ())
  load : load disk path = .ok (some entries)

theorem Holds.openAt {entries : Dict StoredText} (holds : Holds path disk entries) (now : Moment) :
    openAt disk path now = (disk, .ok ⟨path, disk, entries, false, now⟩) := by
  rw [FileStore.openAt, read, holds.room]
  dsimp only
  rw [holds.load]
  rfl

theorem Holds.sound {entries : Dict StoredText} (holds : Holds path disk entries) :
    Sound entries := by
  have loaded := holds.load
  rw [FileStore.load] at loaded
  split at loaded
  · split at loaded
    · exact StateFile.sound_of_decode? (Except.ok.inj loaded)
    · cases loaded
  · cases loaded
    exact StateFile.sound_nil

end

/-- A store that was opened on a state file that was not there or decodes. -/
structure OpenedOn (disk : Disk) (path : String) (store : FileStore) : Prop where
  /-- The state file, the temporary file and the backup are three files. -/
  apart : Apart path
  /-- The state file is not there or decodes, now that its directory is there. -/
  decodes : ∃ entries, load (makeRoom disk path).1 path = .ok (some entries)
  /-- The store is what opening gives. -/
  opened : openAt disk path store.now = (store.disk, .ok store)
  /-- The clock shows the moment. -/
  valid : store.now.IsValid

namespace OpenedOn

variable {disk : Disk} {path : String} {store : FileStore}

/-- A store that was opened holds what the state file holds. -/
theorem spec (opened : OpenedOn disk path store) :
    Holds path store.disk store.entries ∧ store.path = path ∧ store.dirty = false := by
  obtain ⟨-, ⟨entries, loaded⟩, opened, -⟩ := opened
  rw [openAt, read] at opened
  split at opened
  rename_i disk' outcome read
  split at read
  · rename_i failure _
    cases read
    cases opened
  · rename_i made room
    rw [room] at loaded
    rw [loaded] at read
    cases read
    have same : disk' = store.disk := congrArg Prod.fst opened
    have made := Except.ok.inj (congrArg Prod.snd opened)
    have held : entries = store.entries := congrArg FileStore.entries made
    refine ⟨⟨?_, ?_⟩, (congrArg FileStore.path made).symm, (congrArg FileStore.dirty made).symm⟩
    · rw [← same]
      exact makeRoom_again room
    · rw [← same, ← held]
      exact loaded

end OpenedOn

end ProbeWatch.FileStore
