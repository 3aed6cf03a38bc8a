import Tether.Model
import Tether.Topic
/-!
# Cache — the latest value of each telemetry topic

The cache keeps, per topic, the most recent event accepted on it.  An event is accepted
when it belongs to the current session epoch and its sequence number is above the last one
accepted on its topic; otherwise it is refused as a duplicate (naming that last number) or
as belonging to an old epoch.  `reset` drops every value and starts the next epoch, so events
still in flight from the previous session are refused.

Entries are kept in topic order with one entry per topic, so every listing is sorted by
topic.  A cached value is reported with its age (zero if it lies in the future) and whether
it is stale: the first auto-stale rule whose pattern matches its topic says after how long.
-/

namespace Tether

open Tether.Json

set_option autoImplicit false

/-- What became of an event offered to the cache. -/
inductive Admission where
  /-- The event is now the value of its topic. -/
  | fresh
  /-- Its sequence number is at or below `lastSeq`, the last one accepted on its topic. -/
  | duplicate (lastSeq : Nat)
  /-- It belongs to another session epoch. -/
  | wrongEpoch
  deriving DecidableEq, Repr

/-- The JSON form of an admission. -/
def Admission.toJson : Admission → Json
  | .fresh => .str "fresh"
  | .duplicate n => Json.object [("duplicate", .ofNat n)]
  | .wrongEpoch => .str "wrongEpoch"

/-- A cached value with its age at lookup time. -/
structure CachedValue where
  event : TelemetryEvent
  age : Span
  /-- Older than the auto-stale interval of its topic. -/
  stale : Bool

/-- The JSON form of a span. -/
def Span.toJson (s : Span) : Json := Json.object [("secs", .ofNat s.secs), ("nanos", .ofNat s.nanos)]

/-- The JSON form of a cached value. -/
def CachedValue.toJson (v : CachedValue) : Json :=
  Json.object [("event", v.event.toJson), ("age", v.age.toJson), ("stale", .bool v.stale)]

/-- Inserts an event into a topic-sorted list, replacing the event of its topic. -/
def upsertEvent (e : TelemetryEvent) : List TelemetryEvent → List TelemetryEvent
  | [] => [e]
  | x :: rest =>
    if e.topic < x.topic then e :: x :: rest
    else if e.topic = x.topic then e :: rest
    else x :: upsertEvent e rest

/-- The latest event of each topic in the current epoch. -/
structure LastValueCache where
  epoch : Nat := 0
  /-- One event per topic, in topic order. -/
  entries : List TelemetryEvent := []
  /-- Auto-stale intervals; the first matching pattern decides. -/
  autostale : List (TopicPattern × Span) := []

namespace LastValueCache

/-- Adds an auto-stale rule after the existing ones. -/
def withAutostale (c : LastValueCache) (p : TopicPattern) (after : Span) : LastValueCache :=
  { c with autostale := c.autostale ++ [(p, after)] }

/-- Drops every value and starts the next epoch. -/
def reset (c : LastValueCache) : LastValueCache := { c with epoch := c.epoch + 1, entries := [] }

/-- The cached event of a topic. -/
def find? (c : LastValueCache) (topic : String) : Option TelemetryEvent :=
  c.entries.find? (·.topic == topic)

/-- The last sequence number accepted on a topic. -/
def lastSeq? (c : LastValueCache) (topic : String) : Option Nat := (c.find? topic).map (·.seq)

/-- What offering an event received during `epoch` would do. -/
def admission (c : LastValueCache) (epoch : Nat) (e : TelemetryEvent) : Admission :=
  if epoch ≠ c.epoch then .wrongEpoch
  else match c.lastSeq? e.topic with
    | some last => if e.seq ≤ last then .duplicate last else .fresh
    | none => .fresh

/-- Offers an event received during `epoch`: the admission, and the cache after it. -/
def accept (c : LastValueCache) (epoch : Nat) (e : TelemetryEvent) : Admission × LastValueCache :=
  match c.admission epoch e with
  | .fresh => (.fresh, { c with entries := upsertEvent e c.entries })
  | a => (a, c)

/-- Whether a value of this age on this topic is stale. -/
def isStale (c : LastValueCache) (topic : String) (age : Span) : Bool :=
  match c.autostale.find? (·.1.matchesTopic topic) with
  | some (_, after) => after.lt age
  | none => false

/-- An event as reported at `now`. -/
def describe (c : LastValueCache) (now : Instant) (e : TelemetryEvent) : CachedValue :=
  let age := e.receivedAt.ageAt now
  { event := e, age, stale := c.isStale e.topic age }

/-- The cached value of a topic at `now`. -/
def get? (c : LastValueCache) (topic : String) (now : Instant) : Option CachedValue :=
  (c.find? topic).map (c.describe now)

/-- The cached values of every topic matching a pattern, in topic order. -/
def matching (c : LastValueCache) (p : TopicPattern) (now : Instant) : List CachedValue :=
  (c.entries.filter (p.matchesTopic ·.topic)).map (c.describe now)

/-- The last sequence number of every topic, in topic order. -/
def highWaterMarks (c : LastValueCache) : List (String × Nat) := c.entries.map fun e => (e.topic, e.seq)

/-- The number of cached topics. -/
def size (c : LastValueCache) : Nat := c.entries.length

end LastValueCache

end Tether
