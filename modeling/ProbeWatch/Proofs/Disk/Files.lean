import Mathlib.Data.List.Induction
import ProbeWatch.Disk.Basic
import ProbeWatch.Proofs.Disk.Path
import ProbeWatch.Proofs.Failure

/-!
# Files on a disk

Writing, copying and moving a file leave the directories of the disk as they are, so every path
leads to the same place afterwards, and only the paths of that file lead to something else.
-/

namespace ProbeWatch

namespace Disk

variable {disk after : Disk} {path : String} {place : List String} {content : ByteArray}

/-! ## Places -/

theorem at?_nil (disk : Disk) : disk.at? [] = some .directory := rfl

theorem at?_eq (nonempty : place ≠ []) : disk.at? place = Dict.get? (key place) disk.entries := by
  rw [at?, List.isEmpty_eq_false_iff.mpr nonempty]
  rfl

theorem at?_put_self (nonempty : place ≠ []) (entry : Entry) :
    (disk.put place entry).at? place = some entry := by
  rw [at?_eq nonempty, put, Dict.get?_insert_self]

theorem at?_put_of_ne {other : List String} (different : key other ≠ key place) (entry : Entry) :
    (disk.put place entry).at? other = disk.at? other := by
  rw [at?, at?, put, Dict.get?_insert_of_ne different]

theorem at?_erase_of_ne {name : String} (different : key place ≠ name) :
    Disk.at? ⟨Dict.erase name disk.entries⟩ place = disk.at? place := by
  rw [at?, at?, Dict.get?_erase_of_ne different]

theorem ne_nil_of_at?_ne (other : disk.at? place ≠ some .directory) : place ≠ [] := by
  rintro rfl
  exact other (at?_nil disk)

/-! ## Walks -/

/-- Whether two disks have the same directories. -/
def SameDirectories (disk after : Disk) : Prop :=
  ∀ place, disk.at? place = some .directory ↔ after.at? place = some .directory

theorem SameDirectories.refl (disk : Disk) : SameDirectories disk disk := fun _ => .rfl

theorem SameDirectories.symm (same : SameDirectories disk after) : SameDirectories after disk :=
  fun place => (same place).symm

theorem SameDirectories.trans {last : Disk} (former : SameDirectories disk after)
    (latter : SameDirectories after last) : SameDirectories disk last :=
  fun place => (former place).trans (latter place)

/-- The place that a path leads to, if it leads to any. -/
def reach? (disk : Disk) (path : String) : Option (List String) :=
  if '\x00' ∈ path.toList ∨ path.isEmpty = true then none
  else (disk.walk [] (Path.names path)).toOption

theorem walk_ok_of_directories
    (kept : ∀ place, disk.at? place = some .directory → after.at? place = some .directory)
    {start names : List String} (walked : disk.walk start names = .ok place) :
    after.walk start names = .ok place := by
  induction names generalizing start with
  | nil => exact walked
  | cons name rest ih =>
      rw [walk] at walked ⊢
      split
      · rename_i up
        rw [if_pos up] at walked
        exact ih walked
      rename_i down
      rw [if_neg down] at walked
      split
      · rename_i long
        rw [if_pos long] at walked
        cases walked
      rename_i short
      rw [if_neg short] at walked
      split
      · rename_i last
        rw [if_pos last] at walked
        exact walked
      rename_i inner
      rw [if_neg inner] at walked
      cases found : disk.at? (start ++ [name]) with
      | none =>
          rw [found] at walked
          cases walked
      | some entry =>
          rw [found] at walked
          cases entry with
          | file content => cases walked
          | directory =>
              rw [kept _ found]
              exact ih walked

theorem toOption_eq_some {ε α : Type} {result : Except ε α} {value : α} :
    result.toOption = some value ↔ result = .ok value := by
  cases result <;> simp [Except.toOption]

/-- A path leads to the same place on every disk with the same directories. -/
theorem SameDirectories.reach?_eq (same : SameDirectories disk after) (path : String) :
    after.reach? path = disk.reach? path := by
  rw [reach?, reach?]
  split
  · rfl
  · ext place
    simp only [toOption_eq_some]
    exact ⟨walk_ok_of_directories fun place => (same place).mpr,
      walk_ok_of_directories fun place => (same place).mp⟩

theorem nul_notMem_of_reach? (reached : disk.reach? path = some place) :
    '\x00' ∉ path.toList := by
  rw [reach?] at reached
  split at reached
  · cases reached
  · rename_i proper
    exact fun nul => proper (.inl nul)

theorem locate_eq_ok_iff : disk.locate path = .ok place ↔ disk.reach? path = some place ∧
    (Path.isDirectoryOnly path = true → ∀ content, disk.at? place ≠ some (.file content)) := by
  rw [locate, reach?]
  by_cases nul : '\x00' ∈ path.toList
  · have refused : '\x00' ∈ path.toList ∨ path.isEmpty = true := .inl nul
    rw [if_pos nul, if_pos refused]
    exact ⟨by rintro ⟨⟩, by rintro ⟨⟨⟩, -⟩⟩
  by_cases blank : path.isEmpty = true
  · have refused : '\x00' ∈ path.toList ∨ path.isEmpty = true := .inr blank
    rw [if_neg nul, if_pos blank, if_pos refused]
    exact ⟨by rintro ⟨⟩, by rintro ⟨⟨⟩, -⟩⟩
  rw [if_neg nul, if_neg blank, if_neg (not_or.mpr ⟨nul, blank⟩), toOption_eq_some]
  refine bind_eq_ok.trans ⟨?_, ?_⟩
  · rintro ⟨reached, walked, found⟩
    split at found
    · split at found
      · cases found
      · cases found
        exact ⟨walked, fun only => absurd only ‹_›⟩
    · rename_i other
      cases found
      exact ⟨walked, fun _ content held => other content held⟩
  · rintro ⟨walked, proper⟩
    refine ⟨place, walked, ?_⟩
    split
    · rename_i content held
      rw [if_neg fun only => proper only content held]
      rfl
    · rfl

/-- What a path leads to, if it leads to anything. -/
def found? (disk : Disk) (path : String) : Option Entry := (disk.look path).toOption

theorem found?_eq_some_iff {entry : Entry} : disk.found? path = some entry ↔
    ∃ place, disk.locate path = .ok place ∧ disk.at? place = some entry := by
  rw [found?, toOption_eq_some, look, bind_eq_ok]
  refine exists_congr fun place => and_congr_right fun _ => ?_
  cases disk.at? place with
  | none => exact ⟨by rintro ⟨⟩, by rintro ⟨⟩⟩
  | some found =>
      constructor
      · rintro ⟨⟩
        rfl
      · rintro ⟨⟩
        rfl

theorem SameDirectories.found?_eq (same : SameDirectories disk after)
    (held : ∀ place, disk.reach? path = some place → after.at? place = disk.at? place) :
    after.found? path = disk.found? path := by
  ext entry
  simp only [found?_eq_some_iff, locate_eq_ok_iff, same.reach?_eq]
  refine exists_congr fun place => ?_
  by_cases reached : disk.reach? path = some place
  · rw [held place reached]
  · exact ⟨fun found => absurd found.1.1 reached, fun found => absurd found.1.1 reached⟩

/-! ## Changes of one file -/

theorem sameDirectories_put (free : disk.at? place ≠ some .directory) (content : ByteArray) :
    SameDirectories disk (disk.put place (.file content)) := by
  intro other
  by_cases same : key other = key place
  · by_cases root : other = []
    · rw [root, at?_nil, at?_nil]
    · have new : (disk.put place (.file content)).at? other = some (.file content) := by
        rw [at?_eq root, same, put, Dict.get?_insert_self]
      have old : disk.at? other = disk.at? place := by
        rw [at?_eq root, at?_eq (ne_nil_of_at?_ne free), same]
      rw [new, old]
      exact ⟨fun found => absurd found free, by rintro ⟨⟩⟩
  · rw [at?_put_of_ne same]

theorem sameDirectories_erase (free : disk.at? place ≠ some .directory) :
    SameDirectories disk ⟨Dict.erase (key place) disk.entries⟩ := by
  intro other
  by_cases same : key other = key place
  · by_cases root : other = []
    · rw [root, at?_nil, at?_nil]
    · have new : Disk.at? ⟨Dict.erase (key place) disk.entries⟩ other = none := by
        rw [at?_eq root, same, Dict.get?_erase_self]
      have old : disk.at? other = disk.at? place := by
        rw [at?_eq root, at?_eq (ne_nil_of_at?_ne free), same]
      rw [new, old]
      exact ⟨fun found => absurd found free, by rintro ⟨⟩⟩
  · rw [at?_erase_of_ne same]

/-- Whether two paths never lead to the same place. -/
def Distinct (path other : String) : Prop :=
  ∀ (disk : Disk) (place place' : List String), disk.reach? path = some place →
    disk.reach? other = some place' → key place ≠ key place'

theorem Distinct.symm {path other : String} (distinct : Distinct path other) :
    Distinct other path :=
  fun disk place place' reached reached' same =>
    distinct disk place' place reached' reached same.symm

theorem Distinct.ne {path other : String} (distinct : Distinct path other)
    {place place' : List String} (located : disk.locate path = .ok place)
    (located' : disk.locate other = .ok place') : place ≠ place' := fun same =>
  distinct disk place place' (locate_eq_ok_iff.mp located).1 (locate_eq_ok_iff.mp located').1
    (congrArg key same)

/-- What a change of the file that a path leads to does: there is a file afterwards, and nothing but
that file is touched. -/
structure Changes (path : String) (content : ByteArray) (disk after : Disk) : Prop where
  directories : SameDirectories disk after
  file : after.found? path = some (.file content)
  others : ∀ other, Distinct path other → after.found? other = disk.found? other

theorem changes_put (located : disk.locate path = .ok place)
    (free : disk.at? place ≠ some .directory) (proper : Path.isDirectoryOnly path = false)
    (content : ByteArray) : Changes path content disk (disk.put place (.file content)) := by
  have reached := (locate_eq_ok_iff.mp located).1
  have same := sameDirectories_put free content
  refine ⟨same, found?_eq_some_iff.mpr ⟨place, locate_eq_ok_iff.mpr ⟨?_, fun only => ?_⟩, ?_⟩, ?_⟩
  · rw [same.reach?_eq, reached]
  · rw [proper] at only
    cases only
  · exact at?_put_self (ne_nil_of_at?_ne free) _
  · intro other distinct
    refine same.found?_eq fun place' reached' => at?_put_of_ne ?_ _
    exact distinct.symm disk place' place reached' reached

theorem changes_of_write (written : disk.write path content = .ok after) :
    Changes path content disk after := by
  obtain ⟨place, located, written⟩ := bind_eq_ok.mp written
  split at written
  · cases written
  · rename_i free
    split at written
    · cases written
    · rename_i proper
      cases written
      exact changes_put located free (Bool.eq_false_iff.mpr proper) content

theorem Changes.trans {former latter : ByteArray} {last : Disk}
    (first : Changes path former disk after) (second : Changes path latter after last) :
    Changes path latter disk last where
  directories := first.directories.trans second.directories
  file := second.file
  others other distinct := (second.others other distinct).trans (first.others other distinct)

/-- A copy changes its target, whatever of the source it keeps. -/
theorem changes_of_copy {source target : String} {kept : Option Nat}
    (copied : disk.copy source target kept = .ok after) :
    ∃ content, Changes target content disk after := by
  obtain ⟨content, -, copied⟩ := bind_eq_ok.mp copied
  obtain ⟨emptied, created, copied⟩ := bind_eq_ok.mp copied
  obtain ⟨origin, -, copied⟩ := bind_eq_ok.mp copied
  obtain ⟨place, -, copied⟩ := bind_eq_ok.mp copied
  have emptied := changes_of_write created
  split at copied
  · cases copied
    exact ⟨_, emptied⟩
  · exact ⟨_, emptied.trans (changes_of_write copied)⟩

/-- What is moved is a file that takes the place of its target; a file that is moved to its own place
stays there. -/
theorem exists_places_of_rename {source target : String}
    (moved : disk.rename source target = .ok after) :
    ∃ origin place content, disk.locate source = .ok origin ∧ disk.locate target = .ok place ∧
      disk.at? origin = some (.file content) ∧ disk.at? place ≠ some .directory ∧
      Path.isDirectoryOnly target = false ∧
      after = if origin = place then disk
        else Disk.put ⟨Dict.erase (key origin) disk.entries⟩ place (.file content) := by
  obtain ⟨origin, from', moved⟩ := bind_eq_ok.mp moved
  obtain ⟨place, to', moved⟩ := bind_eq_ok.mp moved
  split at moved
  · cases moved
  · cases moved
  · cases moved
  rename_i content held free
  by_cases only : Path.isDirectoryOnly target = true
  · simp only [if_pos only] at moved
    cases moved
  simp only [if_neg only] at moved
  refine ⟨origin, place, content, from', to', held, free, Bool.eq_false_iff.mpr only, ?_⟩
  split at moved
  · rename_i same
    cases moved
    exact (if_pos same).symm
  · rename_i different
    cases moved
    exact (if_neg different).symm

theorem sameDirectories_move {origin : List String} {content : ByteArray}
    (held : disk.at? origin = some (.file content)) (free : disk.at? place ≠ some .directory)
    (apart : key origin ≠ key place) :
    SameDirectories disk (Disk.put ⟨Dict.erase (key origin) disk.entries⟩ place (.file content)) := by
  have occupied : disk.at? origin ≠ some .directory := by
    rw [held]
    rintro ⟨⟩
  have still : Disk.at? ⟨Dict.erase (key origin) disk.entries⟩ place = disk.at? place :=
    at?_erase_of_ne apart.symm
  exact (sameDirectories_erase occupied).trans (sameDirectories_put (still ▸ free) content)

/-- A file that is moved is found at its target, and nothing but the two paths is touched. -/
theorem found?_rename {source target : String} (distinct : Distinct source target)
    (moved : disk.rename source target = .ok after) :
    SameDirectories disk after ∧
      (∃ content, disk.found? source = some (.file content) ∧
        after.found? target = some (.file content)) ∧
      ∀ other, Distinct source other → Distinct target other →
        after.found? other = disk.found? other := by
  obtain ⟨origin, place, content, from', to', held, free, proper, outcome⟩ :=
    exists_places_of_rename moved
  rw [if_neg (distinct.ne from' to')] at outcome
  subst outcome
  have reached := (locate_eq_ok_iff.mp from').1
  have reached' := (locate_eq_ok_iff.mp to').1
  have same := sameDirectories_move held free (distinct disk origin place reached reached')
  refine ⟨same, ⟨content, found?_eq_some_iff.mpr ⟨origin, from', held⟩, ?_⟩, ?_⟩
  · refine found?_eq_some_iff.mpr ⟨place, locate_eq_ok_iff.mpr ⟨?_, fun only => ?_⟩, ?_⟩
    · rw [same.reach?_eq, reached']
    · rw [proper] at only
      cases only
    · exact at?_put_self (ne_nil_of_at?_ne free) _
  · intro other fromSource fromTarget
    refine same.found?_eq fun place' reached'' => ?_
    rw [at?_put_of_ne (fromTarget.symm disk place' place reached'' reached'),
      at?_erase_of_ne (fromSource.symm disk place' origin reached'' reached)]

/-! ## Operations that succeed -/

theorem read_eq_ok_iff : disk.read path = .ok content ↔ disk.found? path = some (.file content) := by
  rw [found?, toOption_eq_some, read, bind_eq_ok]
  constructor
  · rintro ⟨entry, looked, held⟩
    cases entry with
    | file bytes =>
        cases held
        exact looked
    | directory => cases held
  · exact fun looked => ⟨_, looked, rfl⟩

theorem exists_place_of_file (found : disk.found? path = some (.file content)) :
    ∃ place, disk.locate path = .ok place ∧ disk.at? place = some (.file content) ∧
      Path.isDirectoryOnly path = false := by
  obtain ⟨place, located, held⟩ := found?_eq_some_iff.mp found
  refine ⟨place, located, held, Bool.eq_false_iff.mpr fun only => ?_⟩
  exact (locate_eq_ok_iff.mp located).2 only content held

theorem exists_write (found : disk.found? path = some (.file content)) (next : ByteArray) :
    ∃ after, disk.write path next = .ok after := by
  obtain ⟨place, located, held, proper⟩ := exists_place_of_file found
  refine ⟨disk.put place (.file next), bind_eq_ok.mpr ⟨place, located, ?_⟩⟩
  rw [held, proper]
  rfl

section

variable {source target : String} {former : ByteArray}

theorem exists_copy (distinct : Distinct source target)
    (held : disk.found? source = some (.file content))
    (found : disk.found? target = some (.file former)) :
    ∃ after, disk.copy source target none = .ok after := by
  obtain ⟨origin, from', -⟩ := exists_place_of_file held
  obtain ⟨place, to', -⟩ := exists_place_of_file found
  obtain ⟨emptied, created⟩ := exists_write found .empty
  obtain ⟨after, written⟩ := exists_write (changes_of_write created).file
    (content.extract 0 ((none : Option Nat).getD content.size))
  refine ⟨after, bind_eq_ok.mpr ⟨content, read_eq_ok_iff.mpr held, ?_⟩⟩
  refine bind_eq_ok.mpr ⟨emptied, created, bind_eq_ok.mpr ⟨origin, from', ?_⟩⟩
  refine bind_eq_ok.mpr ⟨place, to', ?_⟩
  rw [if_neg (distinct.ne from' to')]
  exact written

theorem changes_of_whole_copy (distinct : Distinct source target)
    (held : disk.found? source = some (.file content))
    (copied : disk.copy source target none = .ok after) : Changes target content disk after := by
  obtain ⟨bytes, read, copied⟩ := bind_eq_ok.mp copied
  obtain rfl : bytes = content := by
    rw [read_eq_ok_iff.mpr held] at read
    exact (Except.ok.inj read).symm
  obtain ⟨emptied, created, copied⟩ := bind_eq_ok.mp copied
  obtain ⟨origin, from', copied⟩ := bind_eq_ok.mp copied
  obtain ⟨place, to', copied⟩ := bind_eq_ok.mp copied
  rw [if_neg (distinct.ne from' to'), Option.getD_none, ByteArray.extract_zero_size] at copied
  exact (changes_of_write created).trans (changes_of_write copied)

theorem exists_rename (held : disk.found? source = some (.file content))
    (found : disk.found? target = some (.file former)) :
    ∃ after, disk.rename source target = .ok after := by
  obtain ⟨origin, from', held, -⟩ := exists_place_of_file held
  obtain ⟨place, to', found, proper⟩ := exists_place_of_file found
  simp only [rename, from', to', held, found, proper, bind, Except.bind, Bool.false_eq_true, if_false]
  split
  · exact ⟨_, rfl⟩
  · exact ⟨_, rfl⟩

end

/-! ## New directories -/

theorem leadsSomewhere_iff :
    disk.leadsSomewhere path = true ↔ ∃ entry, disk.found? path = some entry :=
  Option.isSome_iff_exists

theorem leadsSomewhere_of_isDirectory (found : disk.isDirectory path = true) :
    disk.leadsSomewhere path = true := by
  rw [isDirectory] at found
  split at found
  · rename_i held
    rw [leadsSomewhere, held]
    rfl
  · cases found

theorem leadsSomewhere_of_makeDirectory (made : disk.makeDirectory path = .ok after) :
    after.leadsSomewhere path = true := by
  obtain ⟨place, located, made⟩ := bind_eq_ok.mp made
  split at made
  · cases made
  · rename_i absent
    cases made
    have nonempty : place ≠ [] := by
      rintro rfl
      cases absent
    have new : (disk.put place .directory).at? place = some .directory :=
      at?_put_self nonempty .directory
    have kept : ∀ other, disk.at? other = some .directory →
        (disk.put place .directory).at? other = some .directory := by
      intro other held
      by_cases same : key other = key place
      · by_cases root : other = []
        · rw [root, at?_nil]
        · rw [at?_eq root, same, put, Dict.get?_insert_self]
      · rw [at?_put_of_ne same, held]
    have reached : (disk.put place .directory).reach? path = some place := by
      have reached := (locate_eq_ok_iff.mp located).1
      rw [reach?] at reached ⊢
      split at reached
      · cases reached
      · rename_i proper
        rw [if_neg proper, toOption_eq_some]
        exact walk_ok_of_directories kept (toOption_eq_some.mp reached)
    refine leadsSomewhere_iff.mpr ⟨.directory, found?_eq_some_iff.mpr ⟨place, ?_, new⟩⟩
    refine locate_eq_ok_iff.mpr ⟨reached, fun _ content held => ?_⟩
    cases new.symm.trans held

theorem leadsSomewhere_of_makeDirectories (nonempty : path.isEmpty = false)
    (made : (disk.makeDirectories path).2 = .ok ()) :
    (disk.makeDirectories path).1.leadsSomewhere path = true := by
  have inner : ¬ path.isEmpty = true := by rw [nonempty]; exact Bool.false_ne_true
  revert made
  rw [makeDirectories, if_neg inner]
  split
  · exact fun _ => leadsSomewhere_of_makeDirectory ‹_›
  · split
    · rintro ⟨⟩
    · split
      · split
        · rintro ⟨⟩
        · split
          · exact fun _ => leadsSomewhere_of_makeDirectory ‹_›
          · dsimp only
            split
            · exact fun _ => leadsSomewhere_of_isDirectory ‹_›
            · rintro ⟨⟩
      · rintro ⟨⟩
  · dsimp only
    split
    · exact fun _ => leadsSomewhere_of_isDirectory ‹_›
    · rintro ⟨⟩

/-! ## Files beside each other -/

/-- A walk to a place goes through the directory of the place. -/
theorem exists_parent_of_walk {start front : List String} {name : String} (down : name ≠ "..")
    (above : ∀ inner, inner <+: start → disk.at? inner = some .directory)
    (walked : disk.walk start (front ++ [name]) = .ok place) :
    ∃ parent, disk.walk start front = .ok parent ∧ disk.at? parent = some .directory ∧
      place = parent ++ [name] := by
  induction front generalizing start with
  | nil =>
      rw [List.nil_append, walk, if_neg down] at walked
      split at walked
      · cases walked
      · cases walked
        exact ⟨start, rfl, above start (List.prefix_refl start), rfl⟩
  | cons first rest ih =>
      have inner : (rest ++ [name]).isEmpty = false :=
        List.isEmpty_eq_false_iff.mpr (List.append_ne_nil_of_right_ne_nil _ (List.cons_ne_nil _ _))
      rw [List.cons_append, walk] at walked
      rw [walk]
      split
      · rename_i up
        rw [if_pos up] at walked
        exact ih (fun outer before => above outer (before.trans (List.dropLast_prefix start))) walked
      rename_i other
      rw [if_neg other] at walked
      split
      · rename_i long
        rw [if_pos long] at walked
        cases walked
      rename_i short
      rw [if_neg short, inner, if_neg Bool.false_ne_true] at walked
      cases held : disk.at? (start ++ [first]) with
      | none =>
          rw [held] at walked
          cases walked
      | some entry =>
          rw [held] at walked
          cases entry with
          | file content => cases walked
          | directory =>
              have below : ∀ outer, outer <+: start ++ [first] →
                  disk.at? outer = some .directory := by
                intro outer before
                rcases List.prefix_concat_iff.mp before with rfl | within
                · exact held
                · exact above outer within
              have found := ih below walked
              cases rest with
              | nil => exact found
              | cons second rest => exact found

theorem key_append_last (parent : List String) (name : String) :
    key (parent ++ [name]) = if parent = [] then name else key parent ++ "/" ++ name := by
  split
  · rename_i root
    rw [root, List.nil_append, key, String.intercalate_singleton]
  · rename_i inner
    rw [key, String.intercalate_append_of_ne_nil inner (List.cons_ne_nil _ _),
      String.intercalate_singleton, key]

theorem exists_parent_of_reach? {front : List String} {name : String}
    (names : Path.names path = front ++ [name]) (down : name ≠ "..")
    (reached : disk.reach? path = some place) :
    ∃ parent, disk.walk [] front = .ok parent ∧ disk.at? parent = some .directory ∧
      place = parent ++ [name] := by
  rw [reach?] at reached
  split at reached
  · cases reached
  · rw [toOption_eq_some, names] at reached
    refine exists_parent_of_walk down (fun inner before => ?_) reached
    rw [List.prefix_nil.mp before, at?_nil]

/-- Paths that differ only in the last name never lead to the same place. -/
theorem distinct_of_names {other : String} {front : List String} {name name' : String}
    (names : Path.names path = front ++ [name]) (names' : Path.names other = front ++ [name'])
    (down : name ≠ "..") (down' : name' ≠ "..") (different : name ≠ name') :
    Distinct path other := by
  intro disk place place' reached reached' same
  obtain ⟨parent, walked, -, rfl⟩ := exists_parent_of_reach? names down reached
  obtain ⟨parent', walked', -, rfl⟩ := exists_parent_of_reach? names' down' reached'
  obtain rfl : parent = parent' := Except.ok.inj (walked.symm.trans walked')
  rw [key_append_last, key_append_last] at same
  split at same
  · exact different same
  · exact different (String.append_right_inj _ |>.mp same)

/-! ## Places and their texts -/

theorem mem_of_mem_walk {start names : List String} (walked : disk.walk start names = .ok place)
    {name : String} (found : name ∈ place) : name ∈ start ∨ name ∈ names := by
  induction names generalizing start with
  | nil =>
      cases walked
      exact .inl found
  | cons first rest ih =>
      rw [walk] at walked
      split at walked
      · exact (ih walked).imp ((List.dropLast_prefix start).subset ·) (List.mem_cons_of_mem first ·)
      split at walked
      · cases walked
      split at walked
      · cases walked
        exact (List.mem_append.mp found).imp_right fun last => by
          rw [List.mem_singleton.mp last]
          exact List.mem_cons_self
      split at walked
      · cases walked
      · cases walked
      · rcases ih walked with earlier | later
        · exact (List.mem_append.mp earlier).imp_right fun last => by
            rw [List.mem_singleton.mp last]
            exact List.mem_cons_self
        · exact .inr (List.mem_cons_of_mem first later)

theorem eq_append_of_walk {start names : List String} (straight : ".." ∉ names)
    (walked : disk.walk start names = .ok place) : place = start ++ names := by
  induction names generalizing start with
  | nil =>
      cases walked
      exact (List.append_nil _).symm
  | cons first rest ih =>
      rw [List.mem_cons, not_or] at straight
      rw [walk, if_neg (Ne.symm straight.1)] at walked
      split at walked
      · cases walked
      split at walked
      · rename_i last
        cases walked
        rw [List.isEmpty_iff.mp last]
      split at walked
      · cases walked
      · cases walked
      · rw [ih straight.2 walked, List.append_assoc, List.singleton_append]

theorem parts_key {place : List String}
    (proper : ∀ name ∈ place, '/' ∉ name.toList ∧ Path.isName name.toList = true) :
    Path.parts (key place).toList = place.map String.toList := by
  induction place using List.reverseRecOn with
  | nil => rfl
  | append_singleton parent name ih =>
      obtain ⟨single, leads⟩ := proper name (by simp)
      have last : Path.parts name.toList = [name.toList] := by
        rw [Path.parts_of_notMem single, if_pos leads]
      rw [key_append_last]
      split
      · rename_i root
        rw [root, last]
        rfl
      · have slash : "/".toList = ['/'] := rfl
        rw [String.toList_append, String.toList_append, slash, List.append_assoc,
          List.singleton_append, Path.parts_append, last,
          ih fun other found => proper other (List.mem_append_left _ found), List.map_append]
        rfl

theorem eq_of_key_eq {other : String} {place' : List String}
    (reached : disk.reach? path = some place) (reached' : disk.reach? other = some place')
    (same : key place = key place') : place = place' := by
  have proper {path : String} {place : List String} (reached : disk.reach? path = some place) :
      ∀ name ∈ place, '/' ∉ name.toList ∧ Path.isName name.toList = true := by
    intro name found
    rw [reach?] at reached
    split at reached
    · cases reached
    · have walked := toOption_eq_some.mp reached
      exact Path.proper_of_mem_names ((mem_of_mem_walk walked found).resolve_left List.not_mem_nil)
  have names := (parts_key (proper reached)).symm.trans
    ((congrArg (Path.parts ·.toList) same).trans (parts_key (proper reached')))
  exact (List.map_inj_right fun _ _ => String.toList_injective).mp names

/-- Paths with different last names never lead to the same place, whatever stands in front. -/
theorem distinct_of_last_names {other : String} {front front' : List String} {name name' : String}
    (names : Path.names path = front ++ [name]) (names' : Path.names other = front' ++ [name'])
    (down : name ≠ "..") (down' : name' ≠ "..") (different : name ≠ name') :
    Distinct path other := by
  intro disk place place' reached reached' same
  obtain ⟨parent, -, -, lies⟩ := exists_parent_of_reach? names down reached
  obtain ⟨parent', -, -, lies'⟩ := exists_parent_of_reach? names' down' reached'
  have together := eq_of_key_eq reached reached' same
  rw [lies, lies'] at together
  exact different (List.append_inj_right' together rfl |> List.singleton_inj.mp)

theorem distinct_of_straight {other : String} (straight : ".." ∉ Path.names path)
    (straight' : ".." ∉ Path.names other) (different : Path.names path ≠ Path.names other) :
    Distinct path other := by
  have straightly {disk : Disk} {path : String} {place : List String}
      (straight : ".." ∉ Path.names path) (reached : disk.reach? path = some place) :
      place = Path.names path := by
    rw [reach?] at reached
    split at reached
    · cases reached
    · exact eq_append_of_walk straight (toOption_eq_some.mp reached)
  intro disk place place' reached reached' same
  have together := eq_of_key_eq reached reached' same
  rw [straightly straight reached, straightly straight' reached'] at together
  exact different together

/-- A move leaves everything alone but the two paths, even if they lead to the same place. -/
theorem found?_rename_of_distinct {source target other : String}
    (moved : disk.rename source target = .ok after) (fromSource : Distinct source other)
    (fromTarget : Distinct target other) : after.found? other = disk.found? other := by
  obtain ⟨origin, place, content, from', to', held, free, -, outcome⟩ :=
    exists_places_of_rename moved
  have reached := (locate_eq_ok_iff.mp from').1
  have reached' := (locate_eq_ok_iff.mp to').1
  split at outcome
  · rw [outcome]
  · rename_i different
    have apart : key origin ≠ key place := mt (eq_of_key_eq reached reached') different
    rw [outcome]
    refine (sameDirectories_move held free apart).found?_eq fun place' reached'' => ?_
    rw [at?_put_of_ne (fromTarget.symm disk place' place reached'' reached'),
      at?_erase_of_ne (fromSource.symm disk place' origin reached'' reached)]

theorem leadsSomewhere_of_reach? {parent : String} {name : String}
    (names : Path.names path = Path.names parent ++ [name]) (down : name ≠ "..")
    (plain : '\x00' ∉ parent.toList) (nonempty : parent.isEmpty = false)
    (reached : disk.reach? path = some place) : disk.leadsSomewhere parent = true := by
  obtain ⟨directory, walked, held, -⟩ := exists_parent_of_reach? names down reached
  have reached : disk.reach? parent = some directory := by
    rw [reach?, if_neg (not_or.mpr ⟨plain, Bool.eq_false_iff.mp nonempty⟩), walked]
    rfl
  have found : disk.found? parent = some .directory := by
    refine found?_eq_some_iff.mpr ⟨directory, locate_eq_ok_iff.mpr ⟨reached, ?_⟩, held⟩
    rw [held]
    rintro - content ⟨⟩
  rw [leadsSomewhere, ← found?, found]
  rfl

end Disk
end ProbeWatch
