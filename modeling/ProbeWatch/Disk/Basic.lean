import ProbeWatch.Dict
import ProbeWatch.Disk.Path

/-!
# Disks

A disk holds files and directories under the places that paths lead to.  A path is walked name by
name, and every name but the last has to be that of a directory.  Writing and copying can be cut
off after any number of bytes; moving a file is one step.
-/

namespace ProbeWatch

/-- What lies at a place. -/
inductive Entry
  /-- A file and its bytes. -/
  | file (content : ByteArray)
  /-- A directory. -/
  | directory
deriving Inhabited

/-- Why an operation on a disk fails. -/
inductive DiskError
  | notFound
  | alreadyExists
  | notDirectory
  | isDirectory
  | nameTooLong
  | nulInName
  | noSpace
  | deviceFailed
  | notText
deriving DecidableEq, Inhabited

/-- The text of a failed operation. -/
def DiskError.message : DiskError → String
  | .notFound => "No such file or directory (os error 2)"
  | .alreadyExists => "File exists (os error 17)"
  | .notDirectory => "Not a directory (os error 20)"
  | .isDirectory => "Is a directory (os error 21)"
  | .nameTooLong => "File name too long (os error 36)"
  | .nulInName => "file name contained an unexpected NUL byte"
  | .noSpace => "No space left on device (os error 28)"
  | .deviceFailed => "Input/output error (os error 5)"
  | .notText => "stream did not contain valid UTF-8"

/-- Files and directories by their place.  A place is written as its names between slashes; the
root, whose place is empty, always is a directory. -/
structure Disk where
  /-- What lies at each place below the root. -/
  entries : Dict Entry
deriving Inhabited

namespace Disk

/-- The most bytes that a name may have. -/
def maxNameBytes : Nat := 255

/-- A disk on which there is nothing but the root. -/
def empty : Disk := ⟨[]⟩

/-- The text of a place. -/
def key (place : List String) : String := "/".intercalate place

/-- What lies at a place. -/
def at? (disk : Disk) (place : List String) : Option Entry :=
  if place.isEmpty then some .directory else Dict.get? (key place) disk.entries

/-- The disk with something else at a place. -/
def put (disk : Disk) (place : List String) (entry : Entry) : Disk :=
  ⟨Dict.insert (key place) entry disk.entries⟩

/-- The place that names lead to from a place. -/
def walk (disk : Disk) (place : List String) : List String → Except DiskError (List String)
  | [] => .ok place
  | name :: rest =>
      if name = ".." then
        disk.walk place.dropLast rest
      else if maxNameBytes < name.utf8ByteSize then
        .error .nameTooLong
      else if rest.isEmpty then
        .ok (place ++ [name])
      else
        match disk.at? (place ++ [name]) with
        | none => .error .notFound
        | some (.file _) => .error .notDirectory
        | some .directory => disk.walk (place ++ [name]) rest

/-- The place that a path leads to, whether or not anything lies there. -/
def locate (disk : Disk) (path : String) : Except DiskError (List String) := do
  if '\x00' ∈ path.toList then throw .nulInName
  if path.isEmpty then throw .notFound
  let place ← disk.walk [] (Path.names path)
  match disk.at? place with
  | some (.file _) => if Path.isDirectoryOnly path then throw .notDirectory else return place
  | _ => return place

/-- What a path leads to. -/
def look (disk : Disk) (path : String) : Except DiskError Entry := do
  match disk.at? (← disk.locate path) with
  | some entry => return entry
  | none => throw .notFound

/-- Whether a path leads to anything. -/
def leadsSomewhere (disk : Disk) (path : String) : Bool :=
  (disk.look path).toOption.isSome

/-- Whether a path leads to a directory. -/
def isDirectory (disk : Disk) (path : String) : Bool :=
  match disk.look path with
  | .ok .directory => true
  | _ => false

/-- The bytes of a file. -/
def read (disk : Disk) (path : String) : Except DiskError ByteArray := do
  match ← disk.look path with
  | .file content => return content
  | .directory => throw .isDirectory

/-- The text of a file. -/
def readText (disk : Disk) (path : String) : Except DiskError String := do
  match String.fromUTF8? (← disk.read path) with
  | some text => return text
  | none => throw .notText

/-- Puts a file with the given bytes where a path leads, in place of the file there. -/
def write (disk : Disk) (path : String) (content : ByteArray) : Except DiskError Disk := do
  let place ← disk.locate path
  match disk.at? place with
  | some .directory => throw .isDirectory
  | _ =>
      if Path.isDirectoryOnly path then throw .isDirectory
      return disk.put place (.file content)

/-- Puts an empty file where a path leads, in place of the file there. -/
def create (disk : Disk) (path : String) : Except DiskError Disk :=
  disk.write path .empty

/-- Copies the first `kept` bytes of a file.  A file that is copied onto itself is left empty, as
the copy starts by emptying its target. -/
def copy (disk : Disk) (source target : String) (kept : Option Nat) : Except DiskError Disk := do
  let content ← disk.read source
  let emptied ← disk.create target
  if (← disk.locate source) = (← disk.locate target) then
    return emptied
  else
    emptied.write target (content.extract 0 (kept.getD content.size))

/-- Moves a file, in place of the file at the target. -/
def rename (disk : Disk) (source target : String) : Except DiskError Disk := do
  let origin ← disk.locate source
  let place ← disk.locate target
  match disk.at? origin, disk.at? place with
  | none, _ => throw .notFound
  | some .directory, _ => throw .isDirectory
  | some (.file _), some .directory => throw .isDirectory
  | some (.file content), _ =>
      if Path.isDirectoryOnly target then throw .notDirectory
      if origin = place then return disk
      return Disk.put ⟨Dict.erase (key origin) disk.entries⟩ place (.file content)

/-- Makes one directory. -/
def makeDirectory (disk : Disk) (path : String) : Except DiskError Disk := do
  let place ← disk.locate path
  match disk.at? place with
  | some _ => throw .alreadyExists
  | none => return disk.put place .directory

/-- Makes a directory and, if need be, those that it lies in. -/
def makeDirectories (disk : Disk) (path : String) : Disk × Except DiskError Unit :=
  if path.isEmpty then
    (disk, .ok ())
  else
    match disk.makeDirectory path with
    | .ok made => (made, .ok ())
    | .error .notFound =>
        match Path.parent? path with
        | none => (disk, .error .notFound)
        | some parent =>
            if _ : parent.length < path.length then
              match disk.makeDirectories parent with
              | (above, .error error) => (above, .error error)
              | (above, .ok ()) =>
                  match above.makeDirectory path with
                  | .ok made => (made, .ok ())
                  | .error error =>
                      (above, if above.isDirectory path then .ok () else .error error)
            else
              (disk, .error .notFound)
    | .error error => (disk, if disk.isDirectory path then .ok () else .error error)
termination_by path.length

/-- Removes a file. -/
def removeFile (disk : Disk) (path : String) : Except DiskError Disk := do
  let place ← disk.locate path
  match disk.at? place with
  | none => throw .notFound
  | some .directory => throw .isDirectory
  | some (.file _) => return ⟨Dict.erase (key place) disk.entries⟩

/-- Removes a directory and all that lies in it. -/
def removeDirectory (disk : Disk) (path : String) : Except DiskError Disk := do
  let place ← disk.locate path
  match disk.at? place with
  | none => throw .notFound
  | some (.file _) => throw .notDirectory
  | some .directory =>
      let inside := key place ++ "/"
      return ⟨disk.entries.filter fun (name, _) =>
        name != key place && !inside.toList.isPrefixOf name.toList⟩

/-- What lies in a directory, by the names that lead there from it. -/
def contents (disk : Disk) (directory : String) : Dict Entry :=
  let inside := (directory ++ "/").toList
  disk.entries.filterMap fun (name, entry) =>
    if inside.isPrefixOf name.toList then
      some (String.ofList (name.toList.drop inside.length), entry)
    else
      none

end Disk
end ProbeWatch
