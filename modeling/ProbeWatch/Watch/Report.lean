import ProbeWatch.Log
import ProbeWatch.Moment
import ProbeWatch.Session.Basic

/-!
# Reports

What a watcher says about the results of a session: each lookup once, by its number, and each
failure when it first shows.
-/

namespace ProbeWatch

/-- What was reported so far. -/
structure Reporter where
  /-- The numbers of the lookups that were reported. -/
  seen : List Int64 := []
  /-- The failure that the results held at the last report. -/
  lastError : String := ""
deriving DecidableEq, Inhabited

namespace Reporter

/-- The line about one lookup of a number in all. -/
def recordLine (total : UInt64) (record : DnsRecord) : LogLine :=
  let time := ((Moment.ofMillis? record.timestamp).map Moment.offsetText).getD "-"
  .info .program ("[" ++ time ++ "] " ++ record.queryType ++ " " ++ record.domain ++ " from " ++
    record.clientIp ++ " via " ++ record.protocol ++ " (" ++ toString total.toNat ++ " total)")

/-- The lookups that were not reported before.  One that occurs twice among them is reported
twice. -/
def fresh (reporter : Reporter) (results : Results) : List DnsRecord :=
  results.records.filter fun record => !reporter.seen.contains record.id

/-- What is said about the failure that the results hold. -/
def errorLines (reporter : Reporter) (results : Results) : List LogLine :=
  if results.error = reporter.lastError ∨ results.error.isEmpty then []
  else [.warn .program ("Fetch failed: " ++ results.error)]

/-- Reports on results: what is said, and what has then been reported. -/
def report (reporter : Reporter) (results : Results) : List LogLine × Reporter :=
  let fresh := reporter.fresh results
  (fresh.map (recordLine results.recordsTotal) ++ reporter.errorLines results,
    { seen := reporter.seen ++ fresh.map (·.id), lastError := results.error })

end Reporter
end ProbeWatch
