import ProbeWatch.Proofs.Store.Opening

/-!
# Writing the state file

Nothing but a completed move touches the state file.  What the move brings there is the text that was
taken from memory, because it is written to the temporary file before and no step in between touches
that file.
-/

namespace ProbeWatch.FileStore

open StateFile (StoredText Sound encode decode?)
open Disk (Distinct Changes found?)

/-! ## Changes in memory -/

/-- The entries after a change that is made at a moment. -/
def amend (entries : Dict StoredText) (now : Moment) : Change → Dict StoredText
  | .set key value => Dict.insert key ⟨value, now⟩ entries
  | .remove key => Dict.erase key entries

theorem sound_amend {entries : Dict StoredText} (sound : Sound entries) {now : Moment}
    (valid : now.IsValid) (change : Change) : Sound (amend entries now change) := by
  cases change with
  | set key value => exact sound.insert key value valid
  | remove key => exact sound.erase key

theorem eq_of_change? {store changed : FileStore} {change : Change}
    (made : store.change? change = some changed) :
    changed = { store with entries := amend store.entries store.now change, dirty := true } := by
  cases change with
  | set key value => exact (Option.some.inj made).symm
  | remove key =>
      rw [change?] at made
      split at made
      · exact (Option.some.inj made).symm
      · cases made

/-! ## Operations under faults -/

theorem attempt_cases (disk : Disk) (fault : Option Fault) (operation : Except DiskError Disk)
    (cutOff : Nat → Except DiskError Disk) :
    (∃ after, operation = .ok after ∧ attempt disk fault operation cutOff = (after, .ok ())) ∨
      ∃ after error, attempt disk fault operation cutOff = (after, .error error) ∧
        (after = disk ∨ ∃ kept, cutOff kept = .ok after) := by
  cases fault with
  | none =>
      cases operation with
      | ok after => exact .inl ⟨after, rfl, rfl⟩
      | error error => exact .inr ⟨disk, error, rfl, .inl rfl⟩
  | some fault =>
      refine .inr ⟨_, fault.error, rfl, ?_⟩
      cases cut : cutOff fault.kept with
      | error error => exact .inl rfl
      | ok after => exact .inr ⟨fault.kept, cut⟩

theorem proceed_ok (store : FileStore) (after : Disk) (doing : String) (next : Call) :
    store.proceed (after, .ok ()) doing next = (next, { store with disk := after }) := rfl

theorem proceed_error (store : FileStore) (after : Disk) (error : DiskError) (doing : String)
    (next : Call) : ∃ failure, store.proceed (after, .error error) doing next =
      (.markDirty failure, { store with disk := after }) := ⟨_, rfl⟩

/-! ## What a step can do -/

/-- Whether a call is on the way of bringing its text to the state file. -/
def Call.hasText : Call → Bool
  | .createTemp _ | .writeTemp _ | .flushTemp | .backUp | .moveTemp => true
  | _ => false

/-- Whether a call has taken its text from memory and not yet noted what became of it. -/
def Call.isWriting : Call → Bool
  | .markDirty _ => true
  | call => call.hasText

theorem Call.isWriting_of_hasText {call : Call} (bringing : call.hasText = true) :
    call.isWriting = true := by
  cases call with
  | createTemp | writeTemp | flushTemp | backUp | moveTemp => rfl
  | _ => cases bringing

theorem Call.holdsLock_of_isWriting {call : Call} (writing : call.isWriting = true) :
    call.holdsLock = true := by
  cases call with
  | createTemp | writeTemp | flushTemp | backUp | moveTemp | markDirty => rfl
  | _ => cases writing

/-- What one step of a call does to the store and where the call goes on. -/
inductive Effect (store : FileStore) : FileStore → Call → Call → Prop
  /-- The entries in memory are changed. -/
  | changed {after : FileStore} {change : Change} (made : store.change? change = some after) :
      Effect store after (.update change) .acquire
  /-- What is to be removed is not in memory, and the call returns. -/
  | skipped {change : Change} (absent : store.change? change = none) :
      Effect store store (.update change) (.done (.ok ()))
  /-- There is something to be written. -/
  | behind (dirty : store.dirty = true) : Effect store store .checkDirty .acquire
  /-- There is nothing to be written, and the call returns. -/
  | clean (still : store.dirty = false) : Effect store store .checkDirty (.done (.ok ()))
  /-- The lock is taken. -/
  | locked : Effect store store .acquire .capture
  /-- The text is taken from memory. -/
  | captured :
      Effect store { store with dirty := false } .capture (.createTemp (encode store.entries))
  /-- The disk is used for the text. -/
  | used {call next : Call} (was : call.hasText = true) (is : next.isWriting = true)
      (disk : Disk) : Effect store { store with disk := disk } call next
  /-- The text is moved to the state file. -/
  | moved (disk : Disk) : Effect store { store with disk := disk } .moveTemp (.release (.ok ()))
  /-- The memory is ahead of the state file. -/
  | failed (failure : Failure) :
      Effect store { store with dirty := true } (.markDirty failure) (.release (.error failure))
  /-- The lock is released. -/
  | released (outcome : Except Failure Unit) :
      Effect store store (.release outcome) (.done outcome)
  /-- The call has returned. -/
  | ended (outcome : Except Failure Unit) : Effect store store (.done outcome) (.done outcome)

theorem effect_proceed (store : FileStore) (attempted : Disk × Except DiskError Unit)
    (doing : String) {call next : Call} (was : call.hasText = true) (is : next.isWriting = true) :
    Effect store (store.proceed attempted doing next).2 call
      (store.proceed attempted doing next).1 := by
  obtain ⟨after, error | done⟩ := attempted
  · exact .used was rfl after
  · exact .used was is after

/-- Every step has one of the effects. -/
theorem effect_step (store : FileStore) (fault : Option Fault) (call : Call) :
    Effect store (store.step fault call).2 call (store.step fault call).1 := by
  cases call with
  | update change =>
      rw [step]
      split
      · exact .changed ‹_›
      · exact .skipped ‹_›
  | checkDirty =>
      rw [step]
      split
      · exact .behind ‹_›
      · exact .clean (Bool.eq_false_iff.mpr ‹_›)
  | acquire => exact .locked
  | capture => exact .captured
  | createTemp text => exact effect_proceed store _ _ rfl rfl
  | writeTemp text => exact effect_proceed store _ _ rfl rfl
  | flushTemp => exact effect_proceed store _ _ rfl rfl
  | backUp =>
      rw [step]
      split
      · exact .used rfl rfl _
      · exact .used rfl rfl store.disk
  | moveTemp =>
      rw [step]
      obtain ⟨after, outcome⟩ := attempt store.disk fault
        (store.disk.rename (tempPath store.path) store.path) fun _ => .ok store.disk
      cases outcome with
      | error error => exact .used rfl rfl after
      | ok => exact .moved after
  | markDirty failure => exact .failed failure
  | release outcome => exact .released outcome
  | done outcome => exact .ended outcome

theorem Effect.path_now {store after : FileStore} {call next : Call}
    (effect : Effect store after call next) : after.path = store.path ∧ after.now = store.now := by
  cases effect with
  | changed made =>
      rw [eq_of_change? made]
      exact ⟨rfl, rfl⟩
  | _ => exact ⟨rfl, rfl⟩

theorem Effect.entries {store after : FileStore} {call next : Call}
    (effect : Effect store after call next) (quiet : ∀ change, call ≠ .update change) :
    after.entries = store.entries := by
  cases effect with
  | changed made => exact absurd rfl (quiet _)
  | _ => rfl

theorem Effect.disk_of_not_hasText {store after : FileStore} {call next : Call}
    (effect : Effect store after call next) (quiet : call.hasText = false) :
    after.disk = store.disk := by
  cases effect with
  | changed made => rw [eq_of_change? made]
  | used was is disk => cases was.symm.trans quiet
  | moved disk => cases quiet
  | _ => rfl

/-- Only the call that holds the lock touches the disk. -/
theorem Effect.disk_of_free {store after : FileStore} {call next : Call}
    (effect : Effect store after call next) (free : call.holdsLock = false) :
    after.disk = store.disk := by
  refine effect.disk_of_not_hasText (Bool.eq_false_iff.mpr fun bringing => ?_)
  rw [Call.holdsLock_of_isWriting (Call.isWriting_of_hasText bringing)] at free
  cases free

theorem Effect.hasText {store after : FileStore} {call next : Call}
    (effect : Effect store after call next) (bringing : next.hasText = true) :
    call.hasText = true ∨ call = .capture := by
  cases effect with
  | captured => exact .inr rfl
  | used was is disk => exact .inl was
  | _ => cases bringing

/-- A call that releases the lock without a failure has just moved its text. -/
theorem Effect.eq_moveTemp {store after : FileStore} {call : Call}
    (effect : Effect store after call (.release (.ok ()))) : call = .moveTemp := by
  cases effect with
  | used was is disk => cases is
  | moved disk => rfl

theorem Effect.holdsLock {store after : FileStore} {call next : Call}
    (effect : Effect store after call next) (holds : next.holdsLock = true) :
    call.holdsLock = true ∨ call = .acquire := by
  cases effect with
  | locked => exact .inr rfl
  | captured | moved | failed => exact .inl rfl
  | used was is disk =>
      exact .inl (Call.holdsLock_of_isWriting (Call.isWriting_of_hasText was))
  | _ => cases holds

theorem Effect.sound {store after : FileStore} {call next : Call}
    (effect : Effect store after call next) (sound : Sound store.entries)
    (valid : store.now.IsValid) : Sound after.entries := by
  cases effect with
  | changed made =>
      rw [eq_of_change? made]
      exact sound_amend sound valid _
  | _ => exact sound

/-! ## The text on its way -/

/-- Whether the text that a call brings to the state file, if it does, is that of the given
entries. -/
def Carries (entries : Dict StoredText) (store : FileStore) : Call → Prop
  | .createTemp text | .writeTemp text => text = encode entries
  | .flushTemp | .backUp | .moveTemp =>
      store.disk.found? (tempPath store.path) = some (.file (encode entries).toUTF8)
  | _ => True

theorem carries_of_not_hasText (entries : Dict StoredText) (store : FileStore) {call : Call}
    (quiet : call.hasText = false) : Carries entries store call := by
  cases call with
  | createTemp | writeTemp | flushTemp | backUp | moveTemp => cases quiet
  | _ => exact trivial

theorem carries_congr {entries : Dict StoredText} {store other : FileStore} {call : Call}
    (disk : other.disk = store.disk) (path : other.path = store.path)
    (carries : Carries entries store call) : Carries entries other call := by
  cases call with
  | createTemp | writeTemp => exact carries
  | flushTemp | backUp | moveTemp =>
      rw [Carries, disk, path]
      exact carries
  | _ => exact trivial

section

variable {path file : String} {disk after : Disk} {entries : Dict StoredText}

theorem Holds.changes (holds : Holds path disk entries) (apart : Apart path)
    (beside : Beside path file) (different : Path.names file ≠ Path.names path) {content : ByteArray}
    (changes : Changes file content disk after) : Holds path after entries where
  room := makeRoom_of_found? beside changes.file
  load := by
    have distinct := beside.distinct apart.beside_self different
    rw [load_congr (changes.others path distinct), holds.load]

/-- A temporary file of the text of entries that is moved becomes the state file of the entries. -/
theorem holds_of_rename (apart : Apart path) (sound : Sound entries)
    (temp : disk.found? (tempPath path) = some (.file (encode entries).toUTF8))
    (moved : disk.rename (tempPath path) path = .ok after) : Holds path after entries := by
  have distinct := apart.beside_temp.distinct apart.beside_self apart.temp
  obtain ⟨-, ⟨content, held, found⟩, -⟩ := Disk.found?_rename distinct moved
  rw [temp] at held
  cases held
  exact ⟨makeRoom_of_found? apart.beside_self found,
    (load_of_found? found).trans (congrArg _ (StateFile.decode?_encode sound))⟩

end

/-- What one step of a call does for the state file: it moves the text of the call there, or it
leaves the state file alone. -/
inductive Writes (captured durable : Dict StoredText) (store after : FileStore) (call next : Call) :
    Prop
  /-- The text was moved to the state file. -/
  | moved (was : call = .moveTemp) (is : next = .release (.ok ()))
      (holds : Holds store.path after.disk captured)
  /-- The state file is as before, and the text is still on its way. -/
  | kept (isn't : next ≠ .release (.ok ())) (holds : Holds store.path after.disk durable)
      (carries : call ≠ .capture → Carries captured after next)

section

variable {path : String} {disk after : Disk}

/-- Whether a disk is as before but for the temporary file or the backup. -/
def Spares (path : String) (disk after : Disk) : Prop :=
  after = disk ∨ ∃ file content, Beside path file ∧ Path.names file ≠ Path.names path ∧
    Changes file content disk after

theorem Apart.spares_temp (apart : Apart path) {content : ByteArray}
    (changes : Changes (tempPath path) content disk after) : Spares path disk after :=
  .inr ⟨_, content, apart.beside_temp, apart.temp, changes⟩

theorem Apart.spares_backup (apart : Apart path) {content : ByteArray}
    (changes : Changes (backupPath path) content disk after) : Spares path disk after :=
  .inr ⟨_, content, apart.beside_backup, apart.backup, changes⟩

theorem Spares.found? (spares : Spares path disk after) (apart : Apart path) :
    after.found? path = disk.found? path := by
  rcases spares with rfl | ⟨file, content, beside, different, changes⟩
  · rfl
  · exact changes.others path (beside.distinct apart.beside_self different)

theorem Spares.holds (spares : Spares path disk after) (apart : Apart path)
    {entries : Dict StoredText} (holds : Holds path disk entries) : Holds path after entries := by
  rcases spares with rfl | ⟨file, content, beside, different, changes⟩
  · exact holds
  · exact holds.changes apart beside different changes

end

section

variable {store : FileStore} {captured durable : Dict StoredText}

/-- The step that makes the backup touches nothing but the backup, and the call goes on in any
case. -/
theorem step_backUp (store : FileStore) (fault : Option Fault) :
    ∃ after, store.step fault .backUp = (.moveTemp, { store with disk := after }) ∧
      (after = store.disk ∨
        ∃ content, Changes (backupPath store.path) content store.disk after) := by
  rw [step]
  split
  · refine ⟨_, rfl, ?_⟩
    rcases attempt_cases store.disk fault (store.disk.copy store.path (backupPath store.path) none)
        (fun kept => store.disk.copy store.path (backupPath store.path) (some kept)) with
      ⟨after, copied, attempted⟩ | ⟨after, error, attempted, left⟩
    · rw [attempted]
      exact .inr (Disk.changes_of_copy copied)
    · rw [attempted]
      rcases left with same | ⟨kept, copied⟩
      · exact .inl same
      · exact .inr (Disk.changes_of_copy copied)
  · exact ⟨store.disk, rfl, .inl rfl⟩

/-- The step that moves the temporary file is completed, or it leaves the disk alone. -/
theorem step_moveTemp (store : FileStore) (fault : Option Fault) :
    (∃ after, store.disk.rename (tempPath store.path) store.path = .ok after ∧
      store.step fault .moveTemp = (.release (.ok ()), { store with disk := after })) ∨
      ∃ failure, store.step fault .moveTemp = (.markDirty failure, store) := by
  rw [step]
  rcases attempt_cases store.disk fault (store.disk.rename (tempPath store.path) store.path)
      (fun _ => .ok store.disk) with
    ⟨after, moved, attempted⟩ | ⟨after, error, attempted, left⟩
  · rw [attempted]
    exact .inl ⟨after, moved, rfl⟩
  · have same : after = store.disk := by
      rcases left with same | ⟨kept, same⟩
      · exact same
      · exact (Except.ok.inj same).symm
    rw [attempted, same]
    exact .inr (proceed_error store store.disk error _ _)

theorem touches_attempt {path : String} {disk : Disk} {fault : Option Fault}
    {operation : Except DiskError Disk} {cutOff : Nat → Except DiskError Disk}
    (touched : ∀ after, operation = .ok after ∨ (∃ kept, cutOff kept = .ok after) →
      after = disk ∨ ∃ content, Changes (tempPath path) content disk after) :
    (attempt disk fault operation cutOff).1 = disk ∨
      ∃ content, Changes (tempPath path) content disk (attempt disk fault operation cutOff).1 := by
  rcases attempt_cases disk fault operation cutOff with
    ⟨after, done, attempted⟩ | ⟨after, error, attempted, same | cut⟩
  · rw [attempted]
    exact touched after (.inl done)
  · rw [attempted]
    exact .inl same
  · rw [attempted]
    exact touched after (.inr cut)

/-- Every step that neither makes the backup nor moves the temporary file changes that file alone. -/
theorem touches_step (store : FileStore) (fault : Option Fault) {call : Call}
    (other : call ≠ .backUp) (other' : call ≠ .moveTemp) :
    (store.step fault call).2.disk = store.disk ∨
      ∃ content, Changes (tempPath store.path) content store.disk (store.step fault call).2.disk := by
  have quiet := (effect_step store fault call).disk_of_not_hasText
  cases call with
  | createTemp text =>
      refine touches_attempt fun after touched => ?_
      rcases touched with created | ⟨kept, same⟩
      · exact .inr ⟨_, Disk.changes_of_write created⟩
      · exact .inl (Except.ok.inj same).symm
  | writeTemp text =>
      refine touches_attempt fun after touched => ?_
      rcases touched with wrote | ⟨kept, wrote⟩
      · exact .inr ⟨_, Disk.changes_of_write wrote⟩
      · exact .inr ⟨_, Disk.changes_of_write wrote⟩
  | flushTemp =>
      refine touches_attempt fun after touched => .inl ?_
      rcases touched with same | ⟨kept, same⟩
      · exact (Except.ok.inj same).symm
      · exact (Except.ok.inj same).symm
  | backUp => exact absurd rfl other
  | moveTemp => exact absurd rfl other'
  | _ => exact .inl (quiet rfl)

/-- Every step that completes no move leaves the state file alone. -/
theorem spares_step (apart : Apart store.path) (fault : Option Fault) {call : Call}
    (isn't : (store.step fault call).1 ≠ .release (.ok ())) :
    Spares store.path store.disk (store.step fault call).2.disk := by
  by_cases backing : call = .backUp
  · subst backing
    obtain ⟨after, same, kept | ⟨content, changes⟩⟩ := step_backUp store fault
    · rw [same]
      exact .inl kept
    · rw [same]
      exact apart.spares_backup changes
  by_cases moving : call = .moveTemp
  · subst moving
    rcases step_moveTemp store fault with ⟨after, -, same⟩ | ⟨failure, same⟩
    · exact absurd (congrArg Prod.fst same) isn't
    · rw [same]
      exact .inl rfl
  rcases touches_step store fault backing moving with same | ⟨content, changes⟩
  · exact .inl same
  · exact apart.spares_temp changes

theorem carries_proceed {fault : Option Fault} {operation : Except DiskError Disk}
    {cutOff : Nat → Except DiskError Disk} (doing : String) {next : Call}
    (carries : ∀ after, operation = .ok after →
      Carries captured { store with disk := after } next) :
    let after := store.proceed (attempt store.disk fault operation cutOff) doing next
    Carries captured after.2 after.1 := by
  rcases attempt_cases store.disk fault operation cutOff with
    ⟨after, done, attempted⟩ | ⟨after, error, attempted, -⟩
  · rw [attempted, proceed_ok]
    exact carries after done
  · rw [attempted]
    trivial

/-- Every step but the taking of a text leaves the text of its call on its way. -/
theorem carries_step (apart : Apart store.path) (fault : Option Fault) {call : Call}
    (other : call ≠ .capture) (carries : Carries captured store call) :
    Carries captured (store.step fault call).2 (store.step fault call).1 := by
  have effect := effect_step store fault call
  cases call with
  | createTemp text => exact carries_proceed _ fun after _ => carries
  | writeTemp text =>
      refine carries_proceed _ fun after wrote => ?_
      have changes := Disk.changes_of_write wrote
      rw [Carries] at carries
      rw [carries] at changes
      exact changes.file
  | flushTemp =>
      refine carries_proceed _ fun after same => ?_
      cases same
      exact carries
  | backUp =>
      obtain ⟨after, same, kept | ⟨content, changes⟩⟩ := step_backUp store fault
      · rw [same, kept]
        exact carries
      · have distinct := apart.beside_backup.distinct apart.beside_temp apart.both.symm
        rw [same]
        exact (changes.others _ distinct).trans carries
  | moveTemp =>
      rcases step_moveTemp store fault with ⟨after, -, same⟩ | ⟨failure, same⟩
      · rw [same]
        trivial
      · rw [same]
        trivial
  | _ =>
      refine carries_of_not_hasText _ _ (Bool.eq_false_iff.mpr fun bringing => ?_)
      rcases effect.hasText bringing with ⟨⟨⟩⟩ | same
      exact other same

theorem carries_entries_step (apart : Apart store.path) (fault : Option Fault) {call : Call}
    (carries : Carries store.entries store call) :
    Carries (store.step fault call).2.entries (store.step fault call).2 (store.step fault call).1 := by
  have effect := effect_step store fault call
  cases call with
  | capture => rfl
  | update change =>
      refine carries_of_not_hasText _ _ (Bool.eq_false_iff.mpr fun bringing => ?_)
      exact (effect.hasText bringing).elim nofun nofun
  | _ =>
      rw [effect.entries (by rintro _ ⟨⟩)]
      exact carries_step apart fault (by rintro ⟨⟩) carries

/-- Every step moves the text of its call to the state file or leaves the state file alone. -/
theorem writes_step (apart : Apart store.path) (sound : Sound captured)
    (holds : Holds store.path store.disk durable) (fault : Option Fault) {call : Call}
    (carries : Carries captured store call) :
    Writes captured durable store (store.step fault call).2 call (store.step fault call).1 := by
  by_cases moved : (store.step fault call).1 = .release (.ok ())
  · have effect := effect_step store fault call
    rw [moved] at effect
    obtain rfl := effect.eq_moveTemp
    rcases step_moveTemp store fault with ⟨after, renamed, same⟩ | ⟨failure, same⟩
    · rw [same]
      exact .moved rfl rfl (holds_of_rename apart sound carries renamed)
    · rw [same] at moved
      cases moved
  · exact .kept moved ((spares_step apart fault moved).holds apart holds) fun other =>
      carries_step apart fault other carries

end

end ProbeWatch.FileStore
