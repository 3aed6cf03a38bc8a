import Tether.Error
/-!
# Bus.Rules — which commands may go to the device

The outbound half of the bus keeps one payload schema per command topic and a set of
*reserved* topics, those only the provisioning state machine may send.  Screening a
command (`CommandRules.screen`) refuses, in this order:

1. a reserved topic, unless the sender is the provisioning machine;
2. a topic without a schema, or a payload its schema refuses.

A refused command never reaches the device.  Registering a schema for a reserved topic
changes nothing: the provisioning machine's own schema stays.
-/

namespace Tether

set_option autoImplicit false

/-- The payload schemas and the reserved topics of the bus. -/
structure CommandRules where
  schemas : SchemaRegistry := {}
  /-- Topics only the provisioning machine may send, in the order they were reserved. -/
  reserved : List String := []

namespace CommandRules

/-- Whether only the provisioning machine may send on a topic. -/
def isReserved (r : CommandRules) (topic : String) : Bool := r.reserved.contains topic

/-- Accepts payloads for a topic that satisfy a schema; a reserved topic keeps its own. -/
def registerSchema (r : CommandRules) (topic : String) (s : CommandSchema) : CommandRules :=
  if r.isReserved topic then r else { r with schemas := r.schemas.insert topic s }

/-- Registers a schema for a topic and keeps the topic for the provisioning machine. -/
def reserve (r : CommandRules) (topic : String) (s : CommandSchema) : CommandRules :=
  { schemas := r.schemas.insert topic s,
    reserved := if r.isReserved topic then r.reserved else r.reserved ++ [topic] }

/-- The topics that have a schema, in order. -/
def commandTopics (r : CommandRules) : List String := r.schemas.topics

/-- Screens a command: a reserved topic is refused unless `mayUseReserved`, then the
payload must satisfy the schema of its topic. -/
def screen (r : CommandRules) (c : Command) (mayUseReserved : Bool) : Except BusError Unit :=
  if !mayUseReserved && r.isReserved c.topic then .error (.reserved c.topic)
  else match r.schemas.validate c.topic c.payload with
    | .ok () => .ok ()
    | .error v => .error (.schemaViolation v)

theorem screen_reserved (r : CommandRules) (c : Command) (h : r.isReserved c.topic = true) :
    r.screen c false = .error (.reserved c.topic) := by
  simp [screen, h]

end CommandRules

end Tether
