import Tether.Bus.Queue
/-!
# Bus.Inbox — what the worker of a subscription reads

The worker of a subscription takes the events of the subscription's queue one at a time,
oldest first.  When nothing is queued it waits for the next push.  Ending the subscription
closes its inbox: from then on a worker asking for its next event is told to stop, whatever
is still queued.
-/

namespace Tether

set_option autoImplicit false

/-- What a worker gets when it asks its inbox for the next event. -/
inductive Delivery where
  /-- The oldest queued event, now taken from the queue. -/
  | event (e : TelemetryEvent)
  /-- Nothing is queued: the worker waits for the next push. -/
  | idle
  /-- The subscription has ended: the worker stops. -/
  | stop

/-- The queue of a subscription, and whether the subscription has ended. -/
structure Inbox where
  queue : EventQueue
  closed : Bool := false

namespace Inbox

/-- An open inbox holding at most `perTopic` events of a topic, and at least one. -/
def new (perTopic : Nat) : Inbox := { queue := EventQueue.empty perTopic }

/-- Queues an event; the flag says whether the oldest queued event of its topic had to go. -/
def push (m : Inbox) (e : TelemetryEvent) : Inbox × Bool :=
  ({ m with queue := (m.queue.push e).1 }, (m.queue.push e).2)

/-- Discards everything queued. -/
def clear (m : Inbox) : Inbox := { m with queue := m.queue.clear }

/-- Ends the subscription. -/
def close (m : Inbox) : Inbox := { m with closed := true }

/-- The next event for the worker: a stop once the inbox is closed, and otherwise the oldest
queued event, or nothing yet. -/
def next (m : Inbox) : Delivery × Inbox :=
  if m.closed then (.stop, m)
  else match m.queue.pop? with
    | some (e, queue) => (.event e, { m with queue })
    | none => (.idle, m)

end Inbox

end Tether
