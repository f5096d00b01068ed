import ProbeWatch.Config
import ProbeWatch.Http.Transport
import ProbeWatch.Watcher.Program

/-!
# The command line

The program checks the environment, the settings, the base URL and the log level, in this order,
makes its transport, and runs the watcher.  A complaint about the settings goes to the error stream;
all else goes to the log.
-/

namespace ProbeWatch.CommandLine

/-- The level of a name, in either case. -/
def logLevel (raw : String) : Except String LogLevel :=
  match Text.lowercase raw with
  | "trace" => .ok .trace
  | "debug" => .ok .debug
  | "info" => .ok .info
  | "warn" => .ok .warn
  | "error" => .ok .error
  | _ =>
      .error ("DNSLOG_LOG_LEVEL '" ++ raw ++
        "' is not valid. Valid levels: trace, debug, info, warn, error")

/-- Refuses a base URL that does not start with the scheme of a backend. -/
def requireHttp (url : String) : Except String Unit :=
  if "http://".toList.isPrefixOf url.toList || "https://".toList.isPrefixOf url.toList then
    .ok ()
  else
    .error ("DNSLOG_API_BASE_URL is required and must be an absolute http(s) URL " ++
      "(e.g. https://dnslog.example). Got: " ++ url)

/-- The domain that was given: the first argument, unless it is blank. -/
def domainArgument (arguments : List String) : Option String :=
  arguments.head?.filter fun argument => !Text.isAllBlank argument

/-- The settings and the log level of an environment, or the line that says what is wrong. -/
def configure (environment : Dict String) : Except String (ClientConfig × LogLevel) := do
  let config ← (ClientConfig.ofEnvironment environment).mapError fun failure =>
    "Configuration error: " ++ failure.message
  let invalid := fun problem : String => "Configuration validation error: " ++ problem
  config.validate.mapError fun failure => invalid failure.message
  (requireHttp config.apiBaseUrl).mapError invalid
  let level ← (logLevel ((Dict.get? "DNSLOG_LOG_LEVEL" environment).getD "info")).mapError invalid
  return (config, level)

/-- How the program ends. -/
inductive ExitStatus
  /-- The watcher ended as it should. -/
  | clean
  /-- The program could not start with its settings. -/
  | misconfigured
  /-- The watcher was kept from its work. -/
  | failed
deriving DecidableEq, Inhabited

/-- The number that the operating system is told. -/
def ExitStatus.code : ExitStatus → Nat
  | .clean => 0
  | .misconfigured => 1
  | .failed => 2

/-- What the program leaves behind. -/
structure Outcome where
  status : ExitStatus
  /-- What goes to the error stream. -/
  complaint : String
  /-- The log lines that matter enough, earliest first. -/
  log : List LogLine
  /-- The disk afterwards. -/
  disk : Disk

/-- What the program is started with. -/
structure Start where
  environment : Dict String
  arguments : List String
  script : Script
  /-- The moment at which the state file is changed. -/
  now : Moment
  /-- What stands for the words of a parser. -/
  detail : String

/-- The lines with which the program starts. -/
def greeting (config : ClientConfig) : List LogLine :=
  [.info .program "Starting dnslogw",
    .info .program ("API: " ++ config.apiBaseUrl ++ " (interval=" ++
      toString config.poll.intervalMs.toNat ++ "ms, max_duration=" ++
      toString config.poll.maxDurationMs.toNat ++ "ms, mode=" ++ config.watch.mode.title ++ ")")]

/-- The status and the last line of a program whose watcher ended. -/
def conclude : Except String WatchEnd → ExitStatus × LogLine
  | .ok outcome => (.clean, .info .program ("Watcher finished: " ++ outcome.name))
  | .error problem => (.failed, .error .program ("Watcher error: " ++ problem))

/-- Runs the program; there is no result when the clock cannot show the next tick. -/
def run? (start : Start) (disk : Disk) : Option Outcome :=
  match configure start.environment with
  | .error complaint => some ⟨.misconfigured, complaint ++ "\n", [], disk⟩
  | .ok (config, level) =>
      let shown := fun lines : List LogLine => lines.filter (level.rank ≤ ·.level.rank)
      match HttpTransport.ofBaseUrl config.apiBaseUrl with
      | .error failure =>
          some ⟨.misconfigured, "",
            shown [.error .program ("Failed to create HTTP transport: " ++ failure.message)], disk⟩
      | .ok _ =>
          let domain := domainArgument start.arguments
          (Watcher.run? ⟨config, domain, start.script, start.now, start.detail⟩ disk).map
            fun report =>
              let (status, last) := conclude report.outcome
              ⟨status, "", shown (greeting config ++ report.log ++ [last]), report.disk⟩

end ProbeWatch.CommandLine
