import ProbeWatch.CommandLine
import Std.Time.DateTime.Timestamp

/-!
# The program

Reads the environment, the arguments and the state file, runs the watcher, and writes the files and
the log.  The transport is an empty script: every request finds nothing at its path.
-/

namespace ProbeWatch.CommandLine

/-- The environment variables that the program reads. -/
def variableNames : List String :=
  ["DNSLOG_API_BASE_URL", "DNSLOG_API_KEY", "DNSLOG_POLL_INTERVAL_MS",
    "DNSLOG_POLL_MAX_DURATION_MS", "DNSLOG_REQUEST_TIMEOUT_SECS", "DNSLOG_STATE_PATH",
    "DNSLOG_WATCH_MODE", "DNSLOG_WATCH_ON_FAILURE", "DNSLOG_PAGE_SIZE", "DNSLOG_LOG_LEVEL"]

/-- The environment of the program. -/
def readEnvironment : IO (Dict String) :=
  variableNames.foldlM
    (fun environment name => do
      match ← IO.getEnv name with
      | some value => return Dict.insert name value environment
      | none => return environment)
    []

/-- The disk with a file of the same content as the one at a path, if there is one. -/
def copyIn (disk : Disk) (path : String) : IO Disk := do
  try
    let content ← IO.FS.readBinFile path
    let disk := (disk.makeDirectories ((Path.parent? path).getD "")).1
    return (disk.write path content).toOption.getD disk
  catch _ =>
    return disk

/-- Writes the file at a path of the disk, if there is one. -/
def copyOut (disk : Disk) (path : String) : IO Unit := do
  match disk.read path with
  | .error _ => return
  | .ok content =>
      match Path.parent? path with
      | some parent => if !parent.isEmpty then IO.FS.createDirAll parent
      | none => pure ()
      IO.FS.writeBinFile path content

/-- The paths of the files that the program reads and writes. -/
def filePaths (environment : Dict String) : List String :=
  match configure environment with
  | .ok (config, _) => [config.statePath, FileStore.backupPath config.statePath]
  | .error _ => []

/-- The moment that the clock of the machine shows. -/
def readClock : IO Moment := do
  let time := (← Std.Time.Timestamp.now).toNanosecondsSinceUnixEpoch.val
  return ⟨time / 1000000000, (time % 1000000000).toNat⟩

/-- Runs the program, and returns its status. -/
def execute (arguments : List String) : IO UInt32 := do
  let environment ← readEnvironment
  let paths := filePaths environment
  let disk ← paths.foldlM copyIn Disk.empty
  let start : Start :=
    { environment, arguments, script := [], now := ← readClock, detail := "malformed text" }
  match run? start disk with
  | none =>
      IO.eprint "The clock cannot show the next tick\n"
      return 2
  | some outcome =>
      paths.forM (copyOut outcome.disk)
      for line in outcome.log do
        IO.println (line.level.name ++ " " ++ line.text)
      IO.eprint outcome.complaint
      return UInt32.ofNat outcome.status.code

end ProbeWatch.CommandLine

/-- The program. -/
def main (arguments : List String) : IO UInt32 :=
  ProbeWatch.CommandLine.execute arguments
