import Tether.Bus.Queue
import Tether.Cache
/-!
# Bus.Fanout — telemetry from the cache to every matching subscriber

The inbound half of the bus.  An event offered for a session epoch first passes the
last-value cache (`LastValueCache.accept`): a repeat or reordered sequence number, or an
event of an earlier epoch, stops there and is only counted.  A fresh event becomes the
cached value of its topic and is queued, in subscription order, for every subscriber whose
pattern matches its topic.

Events the host publishes itself (`emit`) are numbered per topic 1, 2, … for the life of
the host — the counters survive a session reset — and offered in the current epoch.

A new subscriber starts with the cached value of every matching topic in its queue, so it
never misses the current state and never sees a value of an earlier session.  A session
reset clears the cache and every queue at once.

The counters (`BusCounters`) say what happened to every event offered: `delivered` counts
queue insertions, `dropped` the events pushed out of a full queue, `duplicates` and
`staleEpoch` the refused offers.
-/

namespace Tether

open Tether.Json

set_option autoImplicit false

/-- One subscription: its pattern, the plugin that made it, and its queue. -/
structure Subscriber where
  id : Nat
  pattern : TopicPattern
  owner : Option PluginId := none
  queue : EventQueue

/-- Counters of what the bus did with telemetry and commands. -/
structure BusCounters where
  /-- Events placed in a subscriber queue. -/
  delivered : Nat := 0
  /-- Offers refused as repeated or out of order. -/
  duplicates : Nat := 0
  /-- Offers refused as belonging to an earlier session. -/
  staleEpoch : Nat := 0
  /-- Queued events pushed out by newer ones of their topic. -/
  dropped : Nat := 0
  /-- Commands refused before reaching the device. -/
  rejectedCommands : Nat := 0
  /-- Events whose handler failed. -/
  handlerPanics : Nat := 0

/-- The cache, the subscribers and the counters of the bus. -/
structure Fanout where
  cache : LastValueCache := {}
  subscribers : List Subscriber := []
  /-- The per-topic bound of every subscriber queue, as configured. -/
  perTopic : Nat := 64
  nextId : Nat := 1
  /-- The last sequence number the host used on each topic it publishes itself. -/
  localSeq : List (String × Nat) := []
  counters : BusCounters := {}

/-- What the bus shows of itself. -/
structure BusDiagnostics where
  counters : BusCounters
  subscribers : Nat
  epoch : Nat
  highWaterMarks : List (String × Nat)

/-- The JSON form of the bus diagnostics. -/
def BusDiagnostics.toJson (d : BusDiagnostics) : Json :=
  Json.object [("delivered", .ofNat d.counters.delivered), ("duplicates", .ofNat d.counters.duplicates),
    ("staleEpoch", .ofNat d.counters.staleEpoch), ("dropped", .ofNat d.counters.dropped),
    ("rejectedCommands", .ofNat d.counters.rejectedCommands),
    ("handlerPanics", .ofNat d.counters.handlerPanics), ("subscribers", .ofNat d.subscribers),
    ("epoch", .ofNat d.epoch),
    ("highWaterMarks", Json.object (d.highWaterMarks.map fun (t, n) => (t, .ofNat n)))]

namespace Fanout

/-- A bus whose subscriber queues hold `perTopic` events of a topic, over a cache. -/
def new (cache : LastValueCache) (perTopic : Nat) : Fanout := { cache, perTopic }

/-- The current session epoch. -/
def epoch (f : Fanout) : Nat := f.cache.epoch

/-- Queues an event for every subscriber whose pattern matches its topic: the subscribers
after, the ids that got it in order, and how many queued events were pushed out. -/
def pushMatching (e : TelemetryEvent) : List Subscriber → List Subscriber × List Nat × Nat
  | [] => ([], [], 0)
  | s :: rest =>
    let (rest', ids, dropped) := pushMatching e rest
    if s.pattern.matchesTopic e.topic then
      let (q, out) := s.queue.push e
      ({ s with queue := q } :: rest', s.id :: ids, if out then dropped + 1 else dropped)
    else (s :: rest', ids, dropped)

/-- Offers an event received during `epoch`.  The admission, the subscribers it was queued
for, in subscription order, and the bus after. -/
def deliver (f : Fanout) (epoch : Nat) (e : TelemetryEvent) : Admission × List Nat × Fanout :=
  let (a, cache) := f.cache.accept epoch e
  match a with
  | .fresh =>
    let (subscribers, ids, dropped) := pushMatching e f.subscribers
    let c := f.counters
    let counters := { c with delivered := c.delivered + ids.length, dropped := c.dropped + dropped }
    (a, ids, { f with cache, subscribers, counters })
  | .duplicate _ =>
    (a, [], { f with counters := { f.counters with duplicates := f.counters.duplicates + 1 } })
  | .wrongEpoch =>
    (a, [], { f with counters := { f.counters with staleEpoch := f.counters.staleEpoch + 1 } })

/-- The next sequence number the host uses on a topic. -/
def nextSeq (f : Fanout) (topic : String) : Nat := ((f.localSeq.lookup topic).getD 0) + 1

/-- Publishes a host event on a topic, numbered after the last one the host published
there, in the current epoch. -/
def emit (f : Fanout) (topic : String) (payload : Json) (now : Instant) :
    Admission × List Nat × Fanout :=
  let seq := f.nextSeq topic
  let f := { f with localSeq := (topic, seq) :: f.localSeq.filter (·.1 != topic) }
  f.deliver f.epoch { topic, seq, payload, receivedAt := now }

/-- Adds a subscriber whose queue starts with the cached value of every matching topic.
Its id comes back with the bus. -/
def subscribe (f : Fanout) (pattern : TopicPattern) (owner : Option PluginId) (now : Instant) :
    Nat × Fanout :=
  let queue := (f.cache.matching pattern now).foldl (fun q v => (q.push v.event).1)
    (EventQueue.empty f.perTopic)
  let sub : Subscriber := { id := f.nextId, pattern, owner, queue }
  (f.nextId, { f with nextId := f.nextId + 1, subscribers := f.subscribers ++ [sub] })

/-- Removes a subscriber; what it had queued is gone. -/
def unsubscribe (f : Fanout) (id : Nat) : Fanout :=
  { f with subscribers := f.subscribers.filter (·.id != id) }

/-- Whether a subscriber is still registered. -/
def isSubscribed (f : Fanout) (id : Nat) : Bool := f.subscribers.any (·.id == id)

/-- Starts the next session epoch: the cache and every queue are emptied. -/
def resetSession (f : Fanout) : Fanout :=
  let subscribers := f.subscribers.map fun s => { s with queue := s.queue.clear }
  { f with cache := f.cache.reset, subscribers }

/-- Takes the oldest event queued for a subscriber. -/
def pop? (f : Fanout) (id : Nat) : Option (TelemetryEvent × Fanout) :=
  match f.subscribers.find? (·.id == id) with
  | none => none
  | some s =>
    match s.queue.pop? with
    | none => none
    | some (e, q) =>
      let subscribers := f.subscribers.map fun x => if x.id == id then { x with queue := q } else x
      some (e, { f with subscribers })

/-- The cached values of the topics matching a pattern, in topic order. -/
def cached (f : Fanout) (p : TopicPattern) (now : Instant) : List CachedValue :=
  f.cache.matching p now

/-- Counts a command refused before it reached the device. -/
def countRejected (f : Fanout) : Fanout :=
  { f with counters := { f.counters with rejectedCommands := f.counters.rejectedCommands + 1 } }

/-- Counts an event whose handler failed. -/
def countHandlerFailure (f : Fanout) : Fanout :=
  { f with counters := { f.counters with handlerPanics := f.counters.handlerPanics + 1 } }

/-- The counters, the number of subscribers, the epoch and the last sequence number of
every cached topic. -/
def diagnostics (f : Fanout) : BusDiagnostics :=
  { counters := f.counters, subscribers := f.subscribers.length, epoch := f.epoch,
    highWaterMarks := f.cache.highWaterMarks }

end Fanout

end Tether
