import ProbeWatch.Proofs.Store.Opening

/-!
# Damaged state files

What a store holds after it was opened, for all bytes of the state file and of its backup.  A state
file that is a text opens whatever has happened to it: its entries are its own, or those of the
backup, or none.  A state file that is no text at all does not open, whatever the backup holds.
-/

namespace ProbeWatch.FileStore

open StateFile (StoredText decode? encode Sound decode?_encode)

/-! ## Entries of bytes -/

/-- Whether the bytes of a file, if there is one, are a text. -/
def isText (content : Option ByteArray) : Bool :=
  content.all fun bytes => (String.fromUTF8? bytes).isSome

/-- The entries of the bytes of a state file, if they are a text that decodes. -/
def entriesOf? (bytes : ByteArray) : Option (Dict StoredText) :=
  (String.fromUTF8? bytes).bind decode?

/-- The entries to be had from the bytes of a state file and of its backup, each of which may be
missing. -/
def salvage (content backup : Option ByteArray) : Dict StoredText :=
  match content with
  | none => []
  | some bytes => (entriesOf? bytes).getD ((backup.bind entriesOf?).getD [])

theorem entriesOf?_encode {entries : Dict StoredText} (sound : Sound entries) :
    entriesOf? (encode entries).toUTF8 = some entries := by
  rw [entriesOf?, fromUTF8?_toUTF8, Option.bind_some, decode?_encode sound]

theorem salvage_of_damaged {bytes : ByteArray} (damaged : entriesOf? bytes = none)
    {entries : Dict StoredText} (sound : Sound entries) :
    salvage (some bytes) (some (encode entries).toUTF8) = entries := by
  rw [salvage, damaged, Option.bind_some, entriesOf?_encode sound]
  rfl

/-- The failure to read a state file that is no text. -/
def notText (path : String) : Failure :=
  .storage ("Failed to read store file " ++ path ++ ": " ++ DiskError.notText.message)

/-! ## Reading -/

section

variable {disk : Disk} {path : String}

theorem load_of_absent (absent : disk.found? path = none) : load disk path = .ok (some []) := by
  have nowhere : disk.leadsSomewhere path = false := congrArg Option.isSome absent
  rw [load, nowhere]
  rfl

/-- A file that is a text is read as what the text decodes to, and no other file is read. -/
theorem load_of_file {bytes : ByteArray} (found : disk.found? path = some (.file bytes)) :
    load disk path =
      match String.fromUTF8? bytes with
      | some text => .ok (decode? text)
      | none => .error (notText path) := by
  have looked := Disk.toOption_eq_some.mp found
  have read : disk.readText path =
      match String.fromUTF8? bytes with
      | some text => .ok text
      | none => .error .notText := by
    rw [Disk.readText, Disk.read, looked]
    rfl
  rw [load, if_pos (Disk.leadsSomewhere_iff.mpr ⟨_, found⟩), read]
  cases String.fromUTF8? bytes with
  | none => rfl
  | some text => rfl

theorem load_eq {content : Option ByteArray} (found : disk.found? path = content.map .file) :
    load disk path =
      match content with
      | none => .ok (some [])
      | some bytes => if isText content then .ok (entriesOf? bytes) else .error (notText path) := by
  cases content with
  | none => exact load_of_absent found
  | some bytes =>
      rw [load_of_file found]
      cases text : String.fromUTF8? bytes <;> simp [isText, entriesOf?, text]

/-- A backup that decodes is put in the place of the state file and gives its entries; any other is
passed over. -/
theorem recover_eq {backup : Option ByteArray}
    (found : disk.found? (backupPath path) = backup.map .file) :
    recover disk path =
      match backup.bind entriesOf? with
      | some entries => ((disk.copy (backupPath path) path none).toOption.getD disk, entries)
      | none => (disk, []) := by
  rw [recover]
  cases backup with
  | none =>
      have nowhere : disk.leadsSomewhere (backupPath path) = false := congrArg Option.isSome found
      rw [nowhere]
      rfl
  | some bytes =>
      have there := Disk.leadsSomewhere_iff.mpr ⟨_, found⟩
      simp only [there, if_true, load_eq found, Option.bind_some]
      cases text : isText (some bytes) with
      | true => cases entriesOf? bytes <;> rfl
      | false =>
          have undecodable : entriesOf? bytes = none := by
            rw [isText, Option.all_some, Option.isSome_eq_false_iff,
              Option.isNone_iff_eq_none] at text
            rw [entriesOf?, text]
            rfl
          rw [undecodable]
          rfl

theorem recover_snd {backup : Option ByteArray}
    (found : disk.found? (backupPath path) = backup.map .file) :
    (recover disk path).2 = (backup.bind entriesOf?).getD [] := by
  rw [recover_eq found]
  cases backup.bind entriesOf? <;> rfl

end

/-! ## Opening -/

/-- Whatever bytes the state file and its backup hold, the store opens if the state file is missing
or a text, and then holds what can be salvaged; if the state file is no text, it does not open and
the disk is left alone. -/
theorem openAt_whatever_bytes {disk made : Disk} {path : String}
    (room : makeRoom disk path = (made, .ok ())) {content backup : Option ByteArray}
    (state : made.found? path = content.map .file)
    (spare : made.found? (backupPath path) = backup.map .file) (now : Moment) :
    (isText content = true →
      ∃ after, openAt disk path now =
        (after, .ok ⟨path, after, salvage content backup, false, now⟩)) ∧
      (isText content = false → openAt disk path now = (made, .error (notText path))) := by
  have loaded := load_eq state
  constructor
  · intro text
    cases content with
    | none =>
        refine ⟨made, ?_⟩
        simp only [openAt, read, room, loaded, salvage]
        rfl
    | some bytes =>
        simp only [text, if_true] at loaded
        cases decoded : entriesOf? bytes with
        | some entries =>
            refine ⟨made, ?_⟩
            simp only [openAt, read, room, loaded, decoded, salvage]
            rfl
        | none =>
            refine ⟨(recover made path).1, ?_⟩
            simp only [openAt, read, room, loaded, decoded, salvage, recover_snd spare]
            rfl
  · intro noText
    cases content with
    | none => cases noText
    | some bytes =>
        simp only [noText, Bool.false_eq_true, if_false] at loaded
        simp only [openAt, read, room, loaded]
        rfl

/-! ## A backup that helps, and one that does not -/

/-- What a store wrote before its state file was damaged. -/
def intact : Dict StoredText := [("key", ⟨"text", ⟨0, 0⟩⟩)]

theorem sound_intact : Sound intact where
  ordered := List.pairwise_singleton _ _
  moments pair found := by
    rw [List.mem_singleton.mp found]
    exact ⟨by decide, by decide, by decide⟩

/-- A disk on which a state file of some bytes lies beside an intact backup. -/
def backedUp (bytes : ByteArray) : Disk :=
  ⟨[("state.backup", .file (StateFile.encode intact).toUTF8), ("state.json", .file bytes)]⟩

theorem makeRoom_backedUp (bytes : ByteArray) :
    makeRoom (backedUp bytes) "state.json" = (backedUp bytes, .ok ()) := by
  have parent : Path.parent? "state.json" = some "" := by decide +kernel
  rw [makeRoom, parent]
  rfl

/-- A state file that was cut off is made good from the backup. -/
theorem openAt_of_cut_off_file :
    let content := some "\x7b \"version\": \"1.0\", \"ent".toUTF8
    let backup := some (StateFile.encode intact).toUTF8
    let disk := backedUp "\x7b \"version\": \"1.0\", \"ent".toUTF8
    makeRoom disk "state.json" = (disk, .ok ()) ∧
      disk.found? "state.json" = content.map .file ∧
      disk.found? (backupPath "state.json") = backup.map .file ∧
      isText content = true ∧
      ∃ after, openAt disk "state.json" ⟨1, 0⟩ =
        (after, .ok ⟨"state.json", after, intact, false, ⟨1, 0⟩⟩) := by
  intro content backup disk
  have state : disk.found? "state.json" = content.map .file := rfl
  have spare : disk.found? (backupPath "state.json") = backup.map .file := rfl
  have text : isText content = true := by decide +kernel
  have damaged : entriesOf? "\x7b \"version\": \"1.0\", \"ent".toUTF8 = none := by decide +kernel
  have salvaged : salvage content backup = intact := salvage_of_damaged damaged sound_intact
  obtain ⟨after, opened⟩ :=
    (openAt_whatever_bytes (makeRoom_backedUp _) state spare ⟨1, 0⟩).1 text
  rw [salvaged] at opened
  exact ⟨makeRoom_backedUp _, state, spare, text, after, opened⟩

/-- A single byte that is no text keeps the store from opening, although all entries could be
salvaged from the backup. -/
theorem openAt_fails_beside_intact_backup :
    let content := some (ByteArray.mk #[255])
    let backup := some (StateFile.encode intact).toUTF8
    let disk := backedUp (ByteArray.mk #[255])
    makeRoom disk "state.json" = (disk, .ok ()) ∧
      disk.found? "state.json" = content.map .file ∧
      disk.found? (backupPath "state.json") = backup.map .file ∧
      salvage content backup = intact ∧
      (openAt disk "state.json" ⟨1, 0⟩).2 = .error (notText "state.json") := by
  intro content backup disk
  have state : disk.found? "state.json" = content.map .file := rfl
  have refused : isText content = false := by decide +kernel
  have damaged : entriesOf? (ByteArray.mk #[255]) = none := by decide +kernel
  refine ⟨makeRoom_backedUp _, state, rfl, salvage_of_damaged damaged sound_intact, ?_⟩
  have loaded := load_eq state
  simp only [content, refused, Bool.false_eq_true, if_false] at loaded
  simp only [disk, openAt, read, makeRoom_backedUp, loaded]
  rfl

end ProbeWatch.FileStore
