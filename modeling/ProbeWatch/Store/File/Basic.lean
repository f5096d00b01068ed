import ProbeWatch.Disk.Basic
import ProbeWatch.Failure
import ProbeWatch.Store.File.Format

/-!
# Storage in a file

The entries are held in memory and written through to a state file.  Beside the state file lie a
temporary file, which becomes the state file once it is complete, and a backup of the state file
before.  A state file that does not decode is replaced by its backup, if that decodes.
-/

namespace ProbeWatch

open StateFile (StoredText)

/-- Storage in a file. -/
structure FileStore where
  /-- The path of the state file. -/
  path : String
  /-- The disk that holds the state file. -/
  disk : Disk
  /-- The entries in memory. -/
  entries : Dict StoredText
  /-- Whether the entries in memory may be ahead of the state file. -/
  dirty : Bool
  /-- The moment at which changes are made. -/
  now : Moment

namespace FileStore

/-- The path of the file that the next state file is written to. -/
def tempPath (path : String) : String := Path.withExtension "tmp" path

/-- The path of the backup of a state file. -/
def backupPath (path : String) : String := Path.withExtension "backup" path

/-- Reads a state file.  A file that is not there holds no entries, and nothing is known of the
entries of one that does not decode. -/
def load (disk : Disk) (path : String) : Except Failure (Option (Dict StoredText)) :=
  if disk.leadsSomewhere path then
    match disk.readText path with
    | .ok text => .ok (StateFile.decode? text)
    | .error error =>
        .error (.storage ("Failed to read store file " ++ path ++ ": " ++ error.message))
  else
    .ok (some [])

/-- The entries of the backup, and the disk after it was put in the place of a state file that does
not decode.  Without a backup that decodes there are no entries, and nothing changes. -/
def recover (disk : Disk) (path : String) : Disk × Dict StoredText :=
  let backup := backupPath path
  if disk.leadsSomewhere backup then
    match load disk backup with
    | .ok (some entries) => ((disk.copy backup path none).toOption.getD disk, entries)
    | _ => (disk, [])
  else
    (disk, [])

/-- Makes the directory of a state file if there is none. -/
def makeRoom (disk : Disk) (path : String) : Disk × Except Failure Unit :=
  match Path.parent? path with
  | none => (disk, .ok ())
  | some parent =>
      if parent.isEmpty || disk.leadsSomewhere parent then
        (disk, .ok ())
      else
        let (made, outcome) := disk.makeDirectories parent
        (made, outcome.mapError fun error =>
          .config ("Failed to create state directory " ++ parent ++ ": " ++ error.message))

/-- Opens a state file: the disk afterwards, and the entries of the file. -/
def read (disk : Disk) (path : String) : Disk × Except Failure (Dict StoredText) :=
  match makeRoom disk path with
  | (disk, .error failure) => (disk, .error failure)
  | (disk, .ok ()) =>
      match load disk path with
      | .error failure => (disk, .error failure)
      | .ok (some entries) => (disk, .ok entries)
      | .ok none =>
          let (disk, entries) := recover disk path
          (disk, .ok entries)

/-- Opens a store on a state file. -/
def openAt (disk : Disk) (path : String) (now : Moment) : Disk × Except Failure FileStore :=
  let (disk, outcome) := read disk path
  (disk, outcome.map fun entries => ⟨path, disk, entries, false, now⟩)

/-- The text under a key. -/
def get (store : FileStore) (key : String) : Option String :=
  (Dict.get? key store.entries).map (·.value)

/-- When the text under a key was last changed. -/
def updatedAt? (store : FileStore) (key : String) : Option Moment :=
  (Dict.get? key store.entries).map (·.updatedAt)

/-- The keys that hold a text, in increasing order. -/
def keys (store : FileStore) : List String :=
  Dict.keys store.entries

end FileStore
end ProbeWatch
