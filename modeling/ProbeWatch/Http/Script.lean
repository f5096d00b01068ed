import ProbeWatch.Dict
import ProbeWatch.Http.Request

/-!
# Scripted transports

A transport whose replies are written down beforehand, path by path.  A path uses up its replies in
order and repeats the last one.
-/

namespace ProbeWatch

/-- A reply that is written down, and how long it takes. -/
structure ScriptedReply where
  reply : Reply
  delayMs : UInt64 := 0

/-- The replies that are still to come, by path. -/
abbrev Script := Dict (List ScriptedReply)

namespace Script

/-- The name of the transport. -/
def name : String := "scripted"

/-- The reply of a path without a script. -/
def unscripted : ScriptedReply :=
  { reply := .ok ⟨404, "\x7b\"code\":404,\"message\":\"not found\"\x7d"⟩ }

/-- Takes the reply to a request to a path. -/
def take (script : Script) (path : String) : ScriptedReply × Script :=
  match Dict.get? path script with
  | some (reply :: next :: rest) => (reply, Dict.insert path (next :: rest) script)
  | some [reply] => (reply, script)
  | _ => (unscripted, script)

/-- The script with more replies at the end of each path. -/
def extend (script more : Script) : Script :=
  more.foldl
    (fun script (path, replies) => Dict.insert path ((Dict.get? path script).getD [] ++ replies) script)
    script

end Script
end ProbeWatch
