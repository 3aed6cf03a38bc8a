import Tether.Model
/-!
# Bus.Queue — the events waiting for one subscriber

Every subscription owns a queue that its worker empties one event at a time.  A slow
subscriber must not hold up the others, so a queue is bounded per topic: it never holds
more than `limit` events of one topic, and a new event on a topic that is at its limit
pushes out the oldest queued event of that topic.  Events of other topics keep their
places, and the order of what stays is the order of arrival.

`limit` is at least one, so the newest event of a topic is always kept.
-/

namespace Tether

set_option autoImplicit false

/-- The events queued for one subscriber, oldest first, with at most `limit` of a topic. -/
structure EventQueue where
  /-- The most events of one topic the queue holds. -/
  limit : Nat
  events : List TelemetryEvent := []

namespace EventQueue

/-- An empty queue holding at most `perTopic` events of a topic, and at least one. -/
def empty (perTopic : Nat) : EventQueue := { limit := max perTopic 1 }

/-- How many queued events are on a topic. -/
def countOn (q : EventQueue) (topic : String) : Nat := q.events.countP (·.topic == topic)

/-- Removes the first event on a topic. -/
def dropFirstOn (topic : String) : List TelemetryEvent → List TelemetryEvent
  | [] => []
  | e :: rest => if e.topic == topic then rest else e :: dropFirstOn topic rest

/-- Queues an event at the back.  When its topic is already at the limit, the oldest event
of that topic leaves first, and the flag says so. -/
def push (q : EventQueue) (e : TelemetryEvent) : EventQueue × Bool :=
  if q.limit ≤ q.countOn e.topic then
    ({ q with events := dropFirstOn e.topic q.events ++ [e] }, true)
  else ({ q with events := q.events ++ [e] }, false)

/-- Takes the oldest event. -/
def pop? (q : EventQueue) : Option (TelemetryEvent × EventQueue) :=
  match q.events with
  | [] => none
  | e :: rest => some (e, { q with events := rest })

/-- Discards every queued event. -/
def clear (q : EventQueue) : EventQueue := { q with events := [] }

/-- Whether nothing is queued. -/
def isEmpty (q : EventQueue) : Bool := q.events.isEmpty

theorem dropFirstOn_length_le (topic : String) (es : List TelemetryEvent) :
    (dropFirstOn topic es).length ≤ es.length := by
  induction es with
  | nil => simp [dropFirstOn]
  | cons e rest ih =>
    unfold dropFirstOn
    split
    · -- the first event on the topic goes
      simp
    · simpa using ih

@[simp] theorem clear_events (q : EventQueue) : q.clear.events = [] := rfl

@[simp] theorem push_events_of_lt (q : EventQueue) (e : TelemetryEvent)
    (h : q.countOn e.topic < q.limit) : (q.push e).1.events = q.events ++ [e] := by
  simp [push, Nat.not_le.mpr h]

end EventQueue

end Tether
