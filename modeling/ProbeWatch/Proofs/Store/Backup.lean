import ProbeWatch.Proofs.Store.Recovery
import ProbeWatch.Proofs.Store.Usage

/-!
# Backups

What is copied to the backup while a store is used on a disk without faults.  Every copy decodes but
for the first one of a store that was opened on a damaged state file beside no backup that decodes:
nothing has replaced the damaged bytes then, and they become the backup.  Once the backup decodes, a
state file that is damaged is made good from it.
-/

namespace ProbeWatch.FileStore

open StateFile (StoredText Sound encode decode?)
open Disk (Changes found?)

/-! ## The files of a store that was opened -/

theorem sound_of_entriesOf? {bytes : ByteArray} {entries : Dict StoredText}
    (decodes : entriesOf? bytes = some entries) : Sound entries := by
  obtain ⟨text, -, decoded⟩ := Option.bind_eq_some_iff.mp decodes
  exact StateFile.sound_of_decode? decoded

theorem sound_salvage (content backup : Option ByteArray) : Sound (salvage content backup) := by
  have getD {entries : Option (Dict StoredText)} (sound : ∀ held ∈ entries, Sound held) :
      Sound (entries.getD []) := by
    cases entries with
    | none => exact StateFile.sound_nil
    | some held => exact sound held rfl
  cases content with
  | none => exact StateFile.sound_nil
  | some bytes =>
      rw [salvage]
      cases decodes : entriesOf? bytes with
      | some entries => exact sound_of_entriesOf? decodes
      | none =>
          refine getD fun held found => ?_
          obtain ⟨copy, -, decodes⟩ := Option.bind_eq_some_iff.mp found
          exact sound_of_entriesOf? decodes

/-- The bytes of the state file after an opening: those of the backup, if they decode and those of the
state file do not. -/
def standing (content backup : Option ByteArray) : Option ByteArray :=
  match content with
  | none => none
  | some bytes =>
      if (entriesOf? bytes).isNone && (backup.bind entriesOf?).isSome then backup else some bytes

/-- The disk after an opening, where a state file of some bytes could be read. -/
def settle (disk : Disk) (path : String) (content : Option ByteArray) : Disk :=
  match content with
  | none => disk
  | some bytes => if (entriesOf? bytes).isNone then (recover disk path).1 else disk

section

variable {disk made : Disk} {path : String} {content backup : Option ByteArray}

theorem openAt_of_isText (room : makeRoom disk path = (made, .ok ()))
    (state : made.found? path = content.map .file)
    (spare : made.found? (backupPath path) = backup.map .file) (text : isText content = true)
    (now : Moment) :
    openAt disk path now =
      (settle made path content,
        .ok ⟨path, settle made path content, salvage content backup, false, now⟩) := by
  have loaded := load_eq state
  cases content with
  | none =>
      simp only [openAt, read, room, loaded, salvage, settle]
      rfl
  | some bytes =>
      simp only [text, if_true] at loaded
      cases decoded : entriesOf? bytes with
      | some entries =>
          simp only [openAt, read, room, loaded, decoded, salvage, settle]
          rfl
      | none =>
          simp only [openAt, read, room, loaded, decoded, salvage, settle, recover_snd spare]
          rfl

theorem openAt_of_not_isText (room : makeRoom disk path = (made, .ok ()))
    (state : made.found? path = content.map .file) (refused : isText content = false)
    (now : Moment) : openAt disk path now = (made, .error (notText path)) := by
  have loaded := load_eq state
  cases content with
  | none => cases refused
  | some bytes =>
      simp only [refused, Bool.false_eq_true, if_false] at loaded
      simp only [openAt, read, room, loaded]
      rfl

theorem found?_recover (apart : Apart path) {bytes : ByteArray}
    (state : disk.found? path = some (.file bytes))
    (spare : disk.found? (backupPath path) = backup.map .file) :
    (recover disk path).1.found? path =
        (if (backup.bind entriesOf?).isSome then backup else some bytes).map .file ∧
      (recover disk path).1.found? (backupPath path) = backup.map .file := by
  rw [recover_eq spare]
  cases decodes : backup.bind entriesOf? with
  | none => exact ⟨state, spare⟩
  | some entries =>
      obtain ⟨copy, rfl, -⟩ := Option.bind_eq_some_iff.mp decodes
      have distinct := apart.beside_backup.distinct apart.beside_self apart.backup
      obtain ⟨after, copied⟩ := Disk.exists_copy distinct spare state
      have changes := Disk.changes_of_whole_copy distinct spare copied
      dsimp only
      rw [copied]
      exact ⟨changes.file, (changes.others _ distinct.symm).trans spare⟩

theorem found?_settle (apart : Apart path) (state : disk.found? path = content.map .file)
    (spare : disk.found? (backupPath path) = backup.map .file) :
    (settle disk path content).found? path = (standing content backup).map .file ∧
      (settle disk path content).found? (backupPath path) = backup.map .file := by
  cases content with
  | none => exact ⟨state, spare⟩
  | some bytes =>
      rw [settle, standing]
      cases decoded : entriesOf? bytes with
      | some entries => exact ⟨state, spare⟩
      | none => exact found?_recover apart state spare

end

/-! ## Copies -/

/-- The bytes that a step copies to the backup, if it does. -/
def copied? (store : FileStore) : Call → Option ByteArray
  | .backUp =>
      match store.disk.copy store.path (backupPath store.path) none with
      | .ok _ => (store.disk.read store.path).toOption
      | .error _ => none
  | _ => none

/-- The states of a store from its opening on, at every step of calls that are made one after another
on a disk without faults, and the bytes that were copied to the backup so far. -/
inductive Keeping (store : FileStore) : Usage → List ByteArray → Prop
  | start : Keeping store (.start store) []
  | ask {usage : Usage} {copies : List ByteArray} (keeping : Keeping store usage copies)
      {outcome : Except Failure Unit} (idle : usage.call = .done outcome) {request : Call}
      (asked : request.isRequest = true) {now : Moment} (valid : now.IsValid) :
      Keeping store (usage.ask request now) copies
  | step {usage : Usage} {copies : List ByteArray} (keeping : Keeping store usage copies) :
      Keeping store (usage.step none) (copies ++ (copied? usage.store usage.call).toList)

theorem Call.exists_eq_done {call : Call} (ended : call.rank = 0) :
    ∃ outcome, call = .done outcome := by
  cases call with
  | done outcome => exact ⟨outcome, rfl⟩
  | _ => cases ended

/-- A number of steps on a disk without faults, and the bytes that they copy to the backup. -/
def Usage.walk (usage : Usage) : Nat → Usage × List ByteArray
  | 0 => (usage, [])
  | steps + 1 =>
      let walked := (usage.step none).walk steps
      (walked.1, (copied? usage.store usage.call).toList ++ walked.2)

section

variable {store : FileStore}

theorem Keeping.walk {usage : Usage} {copies : List ByteArray} (keeping : Keeping store usage copies)
    (steps : Nat) : Keeping store (usage.walk steps).1 (copies ++ (usage.walk steps).2) := by
  induction steps generalizing usage copies with
  | zero =>
      rw [Usage.walk, List.append_nil]
      exact keeping
  | succ steps ih =>
      rw [Usage.walk, ← List.append_assoc]
      exact ih keeping.step

/-- As many steps as a call may still take run it to its end. -/
theorem run_eq_walk {usage : Usage} {steps : Nat} (enough : usage.call.rank ≤ steps) :
    ∃ outcome, (usage.walk steps).1.call = .done outcome ∧
      run (fun _ => none) usage.call usage.store = (outcome, (usage.walk steps).1.store) := by
  induction steps generalizing usage with
  | zero =>
      have ended := Nat.le_zero.mp enough
      obtain ⟨outcome, returned⟩ := Call.exists_eq_done ended
      rw [run, dif_pos ended, returned]
      exact ⟨outcome, returned, rfl⟩
  | succ steps ih =>
      by_cases ended : usage.call.rank = 0
      · obtain ⟨outcome, returned⟩ := Call.exists_eq_done ended
        have still : (usage.step none).call = usage.call ∧ (usage.step none).store = usage.store := by
          rw [Usage.step, returned]
          exact ⟨rfl, rfl⟩
        rw [← still.1, ← still.2]
        refine ih ?_
        rw [still.1, ended]
        exact Nat.zero_le steps
      · rw [run_of_rank_ne_zero _ ended]
        exact ih (Nat.le_of_lt_succ ((rank_step_lt usage.store none usage.call ended).trans_le enough))

/-- A call that is run to its end, and the bytes that it copies to the backup. -/
def Usage.perform (usage : Usage) (request : Call) (now : Moment) : Usage × List ByteArray :=
  (usage.ask request now).walk request.rank

theorem Keeping.perform {usage : Usage} {copies : List ByteArray} (keeping : Keeping store usage copies)
    {outcome : Except Failure Unit} (idle : usage.call = .done outcome) {request : Call}
    (asked : request.isRequest = true) {now : Moment} (valid : now.IsValid) :
    Keeping store (usage.perform request now).1 (copies ++ (usage.perform request now).2) ∧
      ∃ outcome, (usage.perform request now).1.call = .done outcome ∧
        run (fun _ => none) request (usage.store.atTime now) =
          (outcome, (usage.perform request now).1.store) :=
  ⟨(keeping.ask idle asked valid).walk request.rank, run_eq_walk le_rfl⟩

/-- Calls that are made one after another, each at its moment, and the bytes that they copy. -/
def Usage.performAll (usage : Usage) : List (Call × Moment) → Usage × List ByteArray
  | [] => (usage, [])
  | (request, now) :: requests =>
      let first := usage.perform request now
      let others := first.1.performAll requests
      (others.1, first.2 ++ others.2)

theorem Keeping.performAll {usage : Usage} {copies : List ByteArray} (keeping : Keeping store usage copies)
    {outcome : Except Failure Unit} (idle : usage.call = .done outcome)
    {requests : List (Call × Moment)}
    (asked : ∀ request ∈ requests, request.1.isRequest = true ∧ request.2.IsValid) :
    Keeping store (usage.performAll requests).1 (copies ++ (usage.performAll requests).2) := by
  induction requests generalizing usage copies outcome with
  | nil =>
      rw [Usage.performAll, List.append_nil]
      exact keeping
  | cons request requests ih =>
      obtain ⟨now, later⟩ := List.forall_mem_cons.mp asked
      obtain ⟨first, outcome, returned, -⟩ := keeping.perform idle now.1 now.2
      rw [Usage.performAll, ← List.append_assoc]
      exact ih first returned later

theorem copied?_of_ne {call : Call} (other : call ≠ .backUp) : copied? store call = none := by
  cases call with
  | backUp => exact absurd rfl other
  | _ => rfl

theorem step_backUp_none (apart : Apart store.path) :
    (copied? store .backUp = none ∧ store.step none .backUp = (.moveTemp, store)) ∨
      ∃ bytes after, copied? store .backUp = some bytes ∧
        store.disk.found? store.path = some (.file bytes) ∧
        Changes (backupPath store.path) bytes store.disk after ∧
        store.step none .backUp = (.moveTemp, { store with disk := after }) := by
  have distinct := apart.beside_self.distinct apart.beside_backup apart.backup.symm
  rw [copied?, step]
  dsimp only [attempt]
  cases copied : store.disk.copy store.path (backupPath store.path) none with
  | error error =>
      refine .inl ⟨rfl, ?_⟩
      split
      · rfl
      · rfl
  | ok after =>
      obtain ⟨bytes, read, -⟩ := bind_eq_ok.mp copied
      have held := Disk.read_eq_ok_iff.mp read
      refine .inr ⟨bytes, after, Disk.toOption_eq_some.mpr read, held,
        Disk.changes_of_whole_copy distinct held copied, ?_⟩
      rw [if_pos (Disk.leadsSomewhere_iff.mpr ⟨_, held⟩)]

theorem step_moveTemp_none (store : FileStore) :
    (∃ after, store.disk.rename (tempPath store.path) store.path = .ok after ∧
      store.step none .moveTemp = (.release (.ok ()), { store with disk := after })) ∨
    (∃ error failure, store.disk.rename (tempPath store.path) store.path = .error error ∧
      store.step none .moveTemp = (.markDirty failure, store)) := by
  rw [step]
  dsimp only [attempt]
  cases moved : store.disk.rename (tempPath store.path) store.path with
  | ok after => exact .inl ⟨after, rfl, rfl⟩
  | error error =>
      obtain ⟨failure, same⟩ := proceed_error store store.disk error _ _
      exact .inr ⟨error, failure, rfl, same⟩

theorem found?_backup_step (apart : Apart store.path) {call : Call} (other : call ≠ .backUp) :
    (store.step none call).2.disk.found? (backupPath store.path) =
      store.disk.found? (backupPath store.path) := by
  have beside := apart.beside_temp.distinct apart.beside_backup apart.both
  by_cases moving : call = .moveTemp
  · subst moving
    rcases step_moveTemp_none store with ⟨after, moved, same⟩ | ⟨error, failure, -, same⟩
    · have distinct := apart.beside_temp.distinct apart.beside_self apart.temp
      have distinct' := apart.beside_self.distinct apart.beside_backup apart.backup.symm
      obtain ⟨-, -, others⟩ := Disk.found?_rename distinct moved
      rw [same]
      exact others _ beside distinct'
    · rw [same]
  rcases touches_step store none other moving with same | ⟨content, changes⟩
  · rw [same]
  · exact changes.others _ beside

end

/-! ## What every step preserves -/

/-- What the state file holds and what was copied, over the bytes that the state file held when the
store was opened. -/
inductive Stage (held : Option ByteArray) (call : Call) :
    Option ByteArray → List ByteArray → Prop
  /-- Nothing was copied or moved so far. -/
  | fresh : Stage held call held []
  /-- The first bytes were copied, and a text is about to replace them. -/
  | replacing {bytes : ByteArray} (known : held = some bytes) (next : call = .moveTemp) :
      Stage held call (some bytes) [bytes]
  /-- The state file was written, and so was all that was copied but for the first bytes. -/
  | written {bytes : ByteArray} (decodes : (entriesOf? bytes).isSome = true)
      {first later : List ByteArray} (early : first <+: held.toList)
      (decode : ∀ copy ∈ later, (entriesOf? copy).isSome = true) :
      Stage held call (some bytes) (first ++ later)

/-- Whether the backup is the last copy, and the copies are as they should be. -/
structure Guarded (path : String) (held backup : Option ByteArray) (usage : Usage)
    (copies : List ByteArray) : Prop where
  path_eq : usage.store.path = path
  valid : usage.store.now.IsValid
  sound : Sound usage.store.entries
  carries : Carries usage.store.entries usage.store usage.call
  backup : usage.store.disk.found? (backupPath path) = (copies.getLast?.or backup).map .file
  stage : ∃ content, usage.store.disk.found? path = content.map .file ∧
    Stage held usage.call content copies

section

variable {path : String} {held backup : Option ByteArray} {usage : Usage} {copies : List ByteArray}

/-- A text that is about to replace the state file has replaced it after the next step. -/
theorem Stage.next {call next : Call} {content : Option ByteArray}
    (stage : Stage held call content copies) (other : call ≠ .moveTemp) :
    Stage held next content copies := by
  cases stage with
  | fresh => exact .fresh
  | replacing known is => exact absurd is other
  | written decodes early decode => exact .written decodes early decode

/-- Making the backup copies the bytes that the state file held at first, or bytes that decode. -/
theorem Stage.copied {bytes : ByteArray} (stage : Stage held .backUp (some bytes) copies) :
    Stage held .moveTemp (some bytes) (copies ++ [bytes]) := by
  generalize is : some bytes = content at stage
  cases stage with
  | fresh =>
      subst is
      exact .replacing rfl rfl
  | replacing known next => cases next
  | @written bytes' decodes first later early decode =>
      cases is
      rw [List.append_assoc]
      refine .written decodes early fun copy found => ?_
      rcases List.mem_append.mp found with before | last
      · exact decode copy before
      · rw [List.mem_singleton.mp last]
        exact decodes

theorem Stage.moved {call next : Call} {content : Option ByteArray}
    (stage : Stage held call content copies) {bytes : ByteArray}
    (decodes : (entriesOf? bytes).isSome = true) : Stage held next (some bytes) copies := by
  cases stage with
  | fresh => exact .written decodes (List.nil_prefix) (by rintro _ ⟨⟩)
  | @replacing first known is =>
      rw [← List.append_nil [first]]
      exact .written decodes (known ▸ List.prefix_refl _) (by rintro _ ⟨⟩)
  | written _ early decode => exact .written decodes early decode

theorem Stage.tail {call : Call} {content : Option ByteArray}
    (stage : Stage held call content copies) :
    ∀ bytes ∈ copies.tail, (entriesOf? bytes).isSome = true := by
  cases stage with
  | fresh | replacing => rintro bytes ⟨⟩
  | @written _ _ first later early decode =>
      intro bytes found
      have single := early.length_le
      match first with
      | [] => exact decode bytes (List.mem_of_mem_tail found)
      | [_] => exact decode bytes found
      | _ :: _ :: _ =>
          cases held <;> simp at single

theorem Stage.head {call : Call} {content : Option ByteArray}
    (stage : Stage held call content copies) {bytes : ByteArray} (first : bytes ∈ copies.head?) :
    (entriesOf? bytes).isSome = true ∨ held = some bytes := by
  cases stage with
  | fresh => cases first
  | replacing known next =>
      cases first
      exact .inr known
  | @written _ _ early later within decode =>
      match early with
      | [] => exact .inl (decode bytes (List.mem_of_mem_head? first))
      | _ :: _ =>
          cases first
          have found := within.subset List.mem_cons_self
          exact .inr (Option.mem_toList.mp found)

theorem Stage.exists_of_copied {call : Call} {content : Option ByteArray}
    (stage : Stage held call content copies) (copied : copies ≠ []) :
    ∃ bytes, content = some bytes := by
  cases stage with
  | fresh => exact absurd rfl copied
  | replacing | written => exact ⟨_, rfl⟩

theorem backup_step {store : FileStore} (apart : Apart store.path) {call : Call}
    (kept : store.disk.found? (backupPath store.path) = (copies.getLast?.or backup).map .file) :
    (store.step none call).2.disk.found? (backupPath store.path) =
      ((copies ++ (copied? store call).toList).getLast?.or backup).map .file := by
  by_cases backing : call = .backUp
  · subst backing
    rcases step_backUp_none apart with ⟨none, same⟩ | ⟨bytes, after, some, -, changes, same⟩
    · rw [same, none, Option.toList_none, List.append_nil]
      exact kept
    · rw [same, some, Option.toList_some, List.getLast?_concat, Option.some_or]
      exact changes.file
  · rw [copied?_of_ne backing, Option.toList_none, List.append_nil, found?_backup_step apart backing]
    exact kept

/-- After every step the state file holds the bytes it held at first or bytes that decode, and so does
the next copy. -/
theorem stage_step {store : FileStore} (apart : Apart store.path) (sound : Sound store.entries)
    {call : Call} (carries : Carries store.entries store call) {content : Option ByteArray}
    (found : store.disk.found? store.path = content.map .file)
    (stage : Stage held call content copies) :
    ∃ after, (store.step none call).2.disk.found? store.path = after.map .file ∧
      Stage held (store.step none call).1 after (copies ++ (copied? store call).toList) := by
  by_cases backing : call = .backUp
  · subst backing
    rcases step_backUp_none apart with ⟨none, same⟩ | ⟨bytes, after, some, state, changes, same⟩
    · rw [same, none, Option.toList_none, List.append_nil]
      exact ⟨content, found, stage.next nofun⟩
    · obtain rfl : content = bytes := by
        rw [state] at found
        cases content <;> cases found
        rfl
      have distinct := apart.beside_backup.distinct apart.beside_self apart.backup
      rw [same, some, Option.toList_some]
      exact ⟨bytes, (changes.others _ distinct).trans state, stage.copied⟩
  rw [copied?_of_ne backing, Option.toList_none, List.append_nil]
  by_cases moving : call = .moveTemp
  · subst moving
    rcases step_moveTemp_none store with ⟨after, moved, same⟩ | ⟨error, failure, refused, same⟩
    · have distinct := apart.beside_temp.distinct apart.beside_self apart.temp
      obtain ⟨-, ⟨bytes, temp, state⟩, -⟩ := Disk.found?_rename distinct moved
      obtain rfl : (encode store.entries).toUTF8 = bytes := by
        rw [carries] at temp
        cases temp
        rfl
      rw [same]
      refine ⟨some _, state, stage.moved ?_⟩
      rw [entriesOf?_encode sound, Option.isSome_some]
    · -- the temporary file is there, so a state file that is there would have been replaced
      have absent (bytes : ByteArray) : content ≠ some bytes := by
        rintro rfl
        obtain ⟨after, moved⟩ := Disk.exists_rename carries found
        cases refused.symm.trans moved
      rw [same]
      refine ⟨content, found, ?_⟩
      cases stage with
      | fresh => exact .fresh
      | replacing | written => exact absurd rfl (absent _)
  · have effect := effect_step store none call
    have still : (store.step none call).1 ≠ .release (.ok ()) := fun done =>
      moving (done ▸ effect).eq_moveTemp
    exact ⟨content, ((spares_step apart none still).found? apart).trans found, stage.next moving⟩

theorem guarded_step (apart : Apart path) (guarded : Guarded path held backup usage copies) :
    Guarded path held backup (usage.step none)
      (copies ++ (copied? usage.store usage.call).toList) := by
  obtain ⟨rfl, valid, sound, carries, kept, content, found, stage⟩ := guarded
  have effect := effect_step usage.store none usage.call
  obtain ⟨path_eq, now_eq⟩ := effect.path_now
  exact
    { path_eq := path_eq
      valid := now_eq ▸ valid
      sound := effect.sound sound valid
      carries := carries_entries_step apart none carries
      backup := backup_step apart kept
      stage := stage_step apart sound carries found stage }

theorem guarded_ask (guarded : Guarded path held backup usage copies)
    {outcome : Except Failure Unit} (idle : usage.call = .done outcome) {request : Call}
    (asked : request.isRequest = true) {now : Moment} (valid : now.IsValid) :
    Guarded path held backup (usage.ask request now) copies where
  path_eq := guarded.path_eq
  valid := valid
  sound := guarded.sound
  carries := carries_of_isRequest _ _ asked
  backup := guarded.backup
  stage := by
    obtain ⟨content, found, stage⟩ := guarded.stage
    refine ⟨content, found, stage.next ?_⟩
    rw [idle]
    rintro ⟨⟩

theorem guarded_of_keeping (apart : Apart path) {store : FileStore}
    (start : Guarded path held backup (.start store) []) (keeping : Keeping store usage copies) :
    Guarded path held backup usage copies := by
  induction keeping with
  | start => exact start
  | ask keeping idle asked valid ih => exact guarded_ask ih idle asked valid
  | step keeping ih => exact guarded_step apart ih

end

section

variable {disk made : Disk} {path : String} {content backup : Option ByteArray} {store : FileStore}

theorem guarded_start (apart : Apart path) (room : makeRoom disk path = (made, .ok ()))
    (state : made.found? path = content.map .file)
    (spare : made.found? (backupPath path) = backup.map .file)
    (opened : openAt disk path store.now = (store.disk, .ok store)) (valid : store.now.IsValid) :
    Guarded path (standing content backup) backup (.start store) [] := by
  cases text : isText content with
  | false =>
      rw [openAt_of_not_isText room state text] at opened
      cases congrArg Prod.snd opened
  | true =>
      rw [openAt_of_isText room state spare text] at opened
      obtain ⟨settled, same⟩ := Prod.mk.inj opened
      have same := Except.ok.inj same
      obtain ⟨stands, kept⟩ := found?_settle apart state spare
      rw [settled] at stands kept
      exact
        { path_eq := by rw [Usage.start, ← same]
          valid := valid
          sound := by
            rw [Usage.start, ← same]
            exact sound_salvage content backup
          carries := trivial
          backup := kept
          stage := ⟨_, stands, .fresh⟩ }

/-- Bytes that stand after an opening and do not decode were those of the state file, and no backup
that decodes was beside it. -/
theorem eq_of_standing {bytes : ByteArray} (stands : standing content backup = some bytes) :
    (entriesOf? bytes).isSome = true ∨ content = some bytes ∧ backup.bind entriesOf? = none := by
  cases content with
  | none => cases stands
  | some held =>
      rw [standing] at stands
      split at stands
      · rename_i recovered
        rw [Bool.and_eq_true, stands, Option.bind_some] at recovered
        exact .inl recovered.2
      · rename_i left
        cases stands
        rw [Bool.and_eq_true, not_and] at left
        by_cases damaged : (entriesOf? bytes).isNone = true
        · exact .inr ⟨rfl, Option.not_isSome_iff_eq_none.mp (left damaged)⟩
        · exact .inl (Option.isSome_iff_ne_none.mpr fun absent => damaged (absent ▸ rfl))

/-! ## The copies of a whole run -/

/-- Every copy decodes but for the first one of a store that was opened on a damaged state file beside
no backup that decodes.  The backup is the last copy, or what it was where nothing was copied; and
once it was copied from bytes that decode, a damaged state file is made good from it. -/
theorem backups_decode_but_for_the_first (apart : Apart path)
    (room : makeRoom disk path = (made, .ok ())) (state : made.found? path = content.map .file)
    (spare : made.found? (backupPath path) = backup.map .file)
    (opened : openAt disk path store.now = (store.disk, .ok store)) (valid : store.now.IsValid)
    {usage : Usage} {copies : List ByteArray} (keeping : Keeping store usage copies) :
    (∀ bytes ∈ copies.tail, (entriesOf? bytes).isSome = true) ∧
      (∀ bytes ∈ copies.head?, (entriesOf? bytes).isSome = true ∨
        content = some bytes ∧ backup.bind entriesOf? = none) ∧
      usage.store.disk.found? (backupPath path) = (copies.getLast?.or backup).map .file ∧
      ∀ bytes entries, copies.getLast? = some bytes → entriesOf? bytes = some entries →
        ∀ text, decode? text = none → ∀ later, ∃ damaged after,
          usage.store.disk.write path text.toUTF8 = .ok damaged ∧
            openAt damaged path later = (after, .ok ⟨path, after, entries, false, later⟩) := by
  obtain ⟨-, -, -, -, kept, current, found, stage⟩ :=
    guarded_of_keeping apart (guarded_start apart room state spare opened valid) keeping
  refine ⟨stage.tail, fun bytes first => ?_, kept, ?_⟩
  · exact (stage.head first).elim .inl eq_of_standing
  · intro bytes entries last decodes text undecodable later
    rw [last, Option.some_or] at kept
    obtain ⟨held, rfl⟩ := stage.exists_of_copied (List.ne_nil_of_mem (List.mem_of_getLast? last))
    obtain ⟨damaged, written⟩ := Disk.exists_write found text.toUTF8
    have changes := Disk.changes_of_write written
    have distinct := apart.beside_self.distinct apart.beside_backup apart.backup.symm
    have state : damaged.found? path = (some text.toUTF8).map .file := changes.file
    have kept : damaged.found? (backupPath path) = (some bytes).map .file :=
      (changes.others _ distinct).trans kept
    have isText : isText (some text.toUTF8) = true := by
      rw [FileStore.isText, Option.all_some, fromUTF8?_toUTF8, Option.isSome_some]
    have room := makeRoom_of_found? apart.beside_backup kept
    have opens := openAt_of_isText room state kept isText later
    have salvaged : salvage (some text.toUTF8) (some bytes) = entries := by
      rw [salvage, entriesOf?, fromUTF8?_toUTF8, Option.bind_some, undecodable, Option.bind_some,
        decodes]
      rfl
    rw [salvaged] at opens
    exact ⟨damaged, _, written, opens⟩

end

/-- Two calls, each of which sets a text. -/
def twoTexts : List (Call × Moment) :=
  [(.update (.set "key" "text"), ⟨1, 0⟩), (.update (.set "key" "later"), ⟨2, 0⟩)]

/-- A fresh store after two calls, and what they copied. -/
def rewritten : Usage × List ByteArray := (Usage.start fresh).performAll twoTexts

theorem keeping_rewritten : Keeping fresh rewritten.1 rewritten.2 := by
  have asked : ∀ request ∈ twoTexts, request.1.isRequest = true ∧ request.2.IsValid := by
    rw [twoTexts, List.forall_mem_cons, List.forall_mem_singleton]
    exact ⟨⟨rfl, by decide +kernel, by decide, by decide⟩,
      ⟨rfl, by decide +kernel, by decide, by decide⟩⟩
  have opening : Keeping fresh (.start fresh) [] := .start
  have keeping := opening.performAll rfl asked
  rw [List.nil_append] at keeping
  exact keeping

/-- What a fresh store wrote first is copied by its second call and outlasts a damage done to the
state file. -/
theorem backup_of_second_write :
    let first : Dict StoredText := [("key", ⟨"text", ⟨1, 0⟩⟩)]
    Keeping fresh rewritten.1 rewritten.2 ∧ rewritten.2 = [(encode first).toUTF8] ∧
      rewritten.1.store.disk.found? "state.backup" = some (.file (encode first).toUTF8) ∧
      ∃ damaged after,
        rewritten.1.store.disk.write "state.json" "\x7b not json".toUTF8 = .ok damaged ∧
          openAt damaged "state.json" ⟨3, 0⟩ =
            (after, .ok ⟨"state.json", after, first, false, ⟨3, 0⟩⟩) := by
  intro first
  have copies : rewritten.2 = [(encode first).toUTF8] := by decide +kernel
  have sound : Sound first :=
    sound_amend StateFile.sound_nil ⟨by decide +kernel, by decide, by decide⟩ (.set "key" "text")
  have holds := opened_fresh.spec.1
  have absent : Disk.empty.found? "state.json" = (none : Option ByteArray).map .file := rfl
  have bare : Disk.empty.found? (backupPath "state.json") = (none : Option ByteArray).map .file := rfl
  obtain ⟨-, -, kept, restored⟩ := backups_decode_but_for_the_first opened_fresh.apart holds.room absent
    bare opened_fresh.opened opened_fresh.valid keeping_rewritten
  rw [copies] at kept restored
  have undecodable : decode? "\x7b not json" = none := by decide +kernel
  exact ⟨keeping_rewritten, copies, kept,
    restored _ first rfl (entriesOf?_encode sound) _ undecodable ⟨3, 0⟩⟩

/-- A disk on which a damaged state file lies alone. -/
def scrap : Disk := ⟨[("state.json", .file "\x7b not json".toUTF8)]⟩

/-- A store that is opened on a damaged state file makes the damaged bytes the backup as soon as a text
is set. -/
theorem damaged_file_becomes_backup :
    let damaged := "\x7b not json".toUTF8
    let store : FileStore := ⟨"state.json", scrap, [], false, ⟨0, 0⟩⟩
    let after := store.set "key" "text"
    openAt scrap "state.json" ⟨0, 0⟩ = (scrap, .ok store) ∧ after.2 = .ok () ∧
      ((Usage.start store).perform (.update (.set "key" "text")) ⟨0, 0⟩).2 = [damaged] ∧
      after.1.disk.read "state.backup" = .ok damaged ∧ entriesOf? damaged = none := by
  intro damaged store after
  have undecodable : entriesOf? damaged = none := by decide +kernel
  refine ⟨?_, Disk.toOption_eq_some.mp (by decide +kernel), by decide +kernel,
    Disk.toOption_eq_some.mp (by decide +kernel), undecodable⟩
  have parent : Path.parent? "state.json" = some "" := by decide +kernel
  have room : makeRoom scrap "state.json" = (scrap, .ok ()) := by
    rw [makeRoom, parent]
    rfl
  have state : scrap.found? "state.json" = (some damaged).map .file := rfl
  have spare : scrap.found? (backupPath "state.json") = (none : Option ByteArray).map .file := rfl
  have text : isText (some damaged) = true := by decide +kernel
  have loaded := load_eq state
  simp only [text, if_true, undecodable] at loaded
  simp only [openAt, read, room, loaded, recover_eq spare]
  rfl

end ProbeWatch.FileStore
