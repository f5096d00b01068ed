import ProbeWatch.Duration

/-!
# Engine events

What an engine tells its listener, over a channel of bounded capacity.  A full channel drops the
new event; a closed one ignores it.
-/

namespace ProbeWatch

/-- What happened in a polling engine. -/
inductive EngineEvent
  /-- A session began. -/
  | started (interval : Duration) (maxDuration : Option Duration)
  /-- A fetch was dispatched. -/
  | fetch (time : Duration)
  /-- The interval was changed. -/
  | interval (interval : Duration)
  /-- The session used up its time budget. -/
  | expired (elapsed : Duration)
  /-- The session was stopped. -/
  | stopped
deriving DecidableEq

/-- A channel that holds events until they are taken. -/
structure EventChannel where
  /-- The most events that the channel holds. -/
  capacity : Nat
  /-- The events that are held, latest first. -/
  held : List EngineEvent
  /-- Whether anyone may still take events. -/
  isOpen : Bool
deriving DecidableEq

namespace EventChannel

/-- The largest capacity of a channel: one less than the sixty-first power of two. -/
def maxCapacity : Nat := 2305843009213693951

/-- An empty channel, unless its capacity is beyond the largest.  It has room for one event at
least. -/
def ofCapacity? (capacity : Nat) : Option EventChannel :=
  if capacity ≤ maxCapacity then some ⟨max capacity 1, [], true⟩ else none

/-- Whether the next event is dropped for want of room. -/
def isFull (channel : EventChannel) : Bool :=
  channel.isOpen && channel.capacity ≤ channel.held.length

/-- The channel after an event was sent. -/
def send (channel : EventChannel) (event : EngineEvent) : EventChannel :=
  if channel.isOpen && channel.held.length < channel.capacity then
    { channel with held := event :: channel.held }
  else
    channel

/-- Takes all events, earliest first. -/
def drain (channel : EventChannel) : List EngineEvent × EventChannel :=
  (channel.held.reverse, { channel with held := [] })

/-- The channel after its listener left. -/
def close (channel : EventChannel) : EventChannel :=
  { channel with held := [], isOpen := false }

end EventChannel
end ProbeWatch
