/-!
# Log lines
-/

namespace ProbeWatch

/-- How much a log line matters, from the least to the most. -/
inductive LogLevel
  | trace
  | debug
  | info
  | warn
  | error
deriving DecidableEq, Inhabited

/-- The name of a level. -/
def LogLevel.name : LogLevel → String
  | .trace => "TRACE"
  | .debug => "DEBUG"
  | .info => "INFO"
  | .warn => "WARN"
  | .error => "ERROR"

/-- The place of a level among all levels. -/
def LogLevel.rank : LogLevel → Nat
  | .trace => 0
  | .debug => 1
  | .info => 2
  | .warn => 3
  | .error => 4

/-- Who says a line. -/
inductive LogSource
  /-- The watcher and the command line. -/
  | program
  | engine
  | credentials
  | gateway
  | api
  | watch
deriving DecidableEq, Inhabited

/-- One line of a log. -/
structure LogLine where
  source : LogSource
  level : LogLevel
  text : String
deriving DecidableEq, Inhabited

namespace LogLine

/-- A line for those who look for the cause of a problem. -/
def debug (source : LogSource) (text : String) : LogLine := ⟨source, .debug, text⟩

/-- A line about the normal course of things. -/
def info (source : LogSource) (text : String) : LogLine := ⟨source, .info, text⟩

/-- A line about something that went wrong and was dealt with. -/
def warn (source : LogSource) (text : String) : LogLine := ⟨source, .warn, text⟩

/-- A line about something that went wrong for good. -/
def error (source : LogSource) (text : String) : LogLine := ⟨source, .error, text⟩

end LogLine
end ProbeWatch
