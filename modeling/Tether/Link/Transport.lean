import Tether.Link.Pending
import Tether.Config
/-!
# Link.Transport — handing commands to the channel of the active device

While a link is installed, the transport holds the sending end of a bounded queue that the
link's writer reads.  Handing it a command (`Transport.enqueue`) goes, in this order:

1. a link state other than `connected` fails with `notConnected`;
2. no queue installed fails with `notConnected`;
3. the command is kept pending, with its waiter if it has one;
4. it is offered to the queue: a queue whose reader has gone fails with `notConnected`, a
   full one with `queueFull`, and either failure drops the pending entry again; otherwise the
   command joins the queue.

A command sent without waiting (`send`) is kept for the configured reply timeout.  A request
(`request`) is kept with a waiter for the given timeout and then waits (`awaitReply`): for
what the pending table tells its waiter, or until its entry goes without a word, or until
the timeout, when it drops its own entry and fails with `replyTimeout`.
-/

namespace Tether

set_option autoImplicit false

/-- The sending end of the queue a link's writer reads. -/
structure Outbound where
  /-- How many commands the queue holds. -/
  capacity : Nat
  /-- The commands queued and not yet taken by the writer, oldest first. -/
  queued : List Command := []
  /-- The writer has gone, so the queue takes nothing more. -/
  closed : Bool := false

/-- What the transport holds for sending commands. -/
structure Transport where
  config : LinkConfig := {}
  state : LinkState := .disconnected
  /-- The queue of the installed link, if there is one. -/
  outbound : Option Outbound := none
  pending : PendingReplies := {}

/-- How the wait for a request's reply ends. -/
inductive ReplyWait where
  /-- The pending table told the waiter. -/
  | told (r : ReplyResult)
  /-- The entry went without a word, and with it the waiter. -/
  | dropped
  /-- Nothing came within the timeout. -/
  | timedOut

namespace Transport

/-- Hands a command to the installed link's queue, keeping it pending for `timeoutMs` from
`now`. -/
def enqueue (t : Transport) (c : Command) (timeoutMs : Nat) (awaited : Bool) (now : Nat) :
    Except LinkError Unit × Transport :=
  if !t.state.isConnected then (.error .notConnected, t)
  else match t.outbound with
    | none => (.error .notConnected, t)
    | some q =>
      let pending := t.pending.insert c.id c.topic timeoutMs awaited now
      if q.closed then (.error .notConnected, { t with pending := pending.remove c.id })
      else if q.capacity ≤ q.queued.length then
        (.error .queueFull, { t with pending := pending.remove c.id })
      else (.ok (), { t with pending, outbound := some { q with queued := q.queued ++ [c] } })

/-- Sends a command without waiting for its reply. -/
def send (t : Transport) (c : Command) (now : Nat) : Except LinkError Unit × Transport :=
  t.enqueue c t.config.replyTimeoutMs false now

/-- Sends a request: the command is kept with a waiter, whose wait begins. -/
def request (t : Transport) (c : Command) (timeoutMs now : Nat) :
    Except LinkError Unit × Transport :=
  t.enqueue c timeoutMs true now

/-- Ends the wait of a request sent with `timeoutMs`, on the transport as it stands then. -/
def awaitReply (t : Transport) (c : Command) (timeoutMs : Nat) : ReplyWait → ReplyResult × Transport
  | .told r => (r, t)
  | .dropped => (.error .notConnected, t)
  | .timedOut =>
    (.error (.replyTimeout c.topic timeoutMs), { t with pending := t.pending.remove c.id })

end Transport

end Tether
