import Tether.Bus.Fanout
import Tether.Bus.Rules
import Tether.Link.Transport
/-!
# Bus.Commands — commands and requests on their way to the device

A command is screened before anything of it reaches the transport (`CommandRules.screen`):
a reserved topic is refused unless the provisioning machine sends it, then the payload must
satisfy the schema of its topic.  A refusal is counted among the rejected commands and
changes nothing else.  A command that passes goes to the transport, published without
waiting (`CommandBus.publish`) or sent as a request (`CommandBus.request`) whose wait ends in
a result; a reply the device gives with `ok = false` fails the request as `rejected`, with
the device's reason or `no reason given` (`CommandBus.answer`).
-/

namespace Tether

set_option autoImplicit false

/-- The parts of the bus a command passes through: the rules, the fan-out that counts
refusals, and the transport. -/
structure CommandBus where
  rules : CommandRules := {}
  fanout : Fanout := {}
  transport : Transport := {}

namespace CommandBus

/-- Screens a command; a refusal is counted.  A reserved topic passes only when
`mayUseReserved`. -/
def screen (b : CommandBus) (c : Command) (mayUseReserved : Bool) :
    Except BusError Unit × CommandBus :=
  match b.rules.screen c mayUseReserved with
  | .error e => (.error e, { b with fanout := b.fanout.countRejected })
  | .ok () => (.ok (), b)

/-- Publishes a command without waiting for its reply: the command's id once it is queued. -/
def publish (b : CommandBus) (c : Command) (mayUseReserved : Bool) (now : Nat) :
    Except BusError Uuid × CommandBus :=
  match b.screen c mayUseReserved with
  | (.error e, b) => (.error e, b)
  | (.ok (), b) =>
    match b.transport.send c now with
    | (.error e, transport) => (.error (.link e), { b with transport })
    | (.ok (), transport) => (.ok c.id, { b with transport })

/-- Sends a request for the configured reply timeout; its wait follows. -/
def request (b : CommandBus) (c : Command) (now : Nat) : Except BusError Unit × CommandBus :=
  match b.screen c false with
  | (.error e, b) => (.error e, b)
  | (.ok (), b) =>
    match b.transport.request c b.transport.config.replyTimeoutMs now with
    | (.error e, transport) => (.error (.link e), { b with transport })
    | (.ok (), transport) => (.ok (), { b with transport })

/-- The answer to a request from what its wait gave; a refusal by the device is an error. -/
def answer (c : Command) : ReplyResult → Except BusError Reply
  | .error e => .error (.link e)
  | .ok r => if r.ok then .ok r else .error (.rejected c.topic (r.error.getD "no reason given"))

end CommandBus

end Tether
