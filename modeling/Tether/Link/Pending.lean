import Tether.Error
/-!
# Link.Pending — commands waiting for the device's reply

Every command handed to an open channel is kept, under its id, until the device answers it
or the host stops waiting.  An entry remembers the command's topic, how long a reply may
take, when that time is up, and whether someone waits for the reply: a request does, a
command sent without waiting does not.  Instants are microseconds on the host's clock.

An entry leaves the table in one of five ways, and its waiter, if it has one, is told once:

* the device's reply for its id: the reply itself (`complete`);
* a failure of that one command: the given error (`fail`);
* a failure of the whole channel: the given error, for every entry (`failAll`);
* its deadline passing: `replyTimeout` with its topic and timeout (`sweep`);
* its requester giving up first: nothing, since nobody waits any more (`remove`).

A reply whose id is not in the table changes nothing.  What a call tells the waiters is
returned as a list of `Notice`s, in the order they are sent.
-/

namespace Tether

set_option autoImplicit false

/-- What a waiter is told: the device's reply, or why none will come. -/
abbrev ReplyResult := Except LinkError Reply

/-- A result sent to the waiter of the command `id`. -/
structure Notice where
  id : Uuid
  result : ReplyResult

/-- A command sent to the device and not yet answered. -/
structure PendingReply where
  topic : String
  timeoutMs : Nat
  /-- When the reply is overdue. -/
  deadline : Nat
  /-- Whether someone waits for the reply. -/
  awaited : Bool

namespace PendingReply

/-- The notice for the waiter of an entry, if it has a waiter. -/
def notify (e : PendingReply) (id : Uuid) (r : ReplyResult) : List Notice :=
  if e.awaited then [⟨id, r⟩] else []

/-- What the waiter of an overdue entry is told. -/
def overdue (e : PendingReply) : ReplyResult := .error (.replyTimeout e.topic e.timeoutMs)

end PendingReply

/-- The commands waiting for a reply, under their ids. -/
structure PendingReplies where
  entries : List (Uuid × PendingReply) := []

namespace PendingReplies

/-- The entry of a command. -/
def find? (p : PendingReplies) (id : Uuid) : Option PendingReply := p.entries.lookup id

/-- The number of commands waiting. -/
def len (p : PendingReplies) : Nat := p.entries.length

/-- Drops the entry of a command, if there is one; nobody is told. -/
def remove (p : PendingReplies) (id : Uuid) : PendingReplies :=
  { entries := p.entries.filter (·.1 != id) }

/-- Keeps a command sent at `now`, in place of any entry of its id. -/
def insert (p : PendingReplies) (id : Uuid) (topic : String) (timeoutMs : Nat) (awaited : Bool)
    (now : Nat) : PendingReplies :=
  { entries := (p.remove id).entries ++
      [(id, { topic, timeoutMs, deadline := now + timeoutMs * 1000, awaited })] }

/-- Hands a device reply to the waiter of its command. -/
def complete (p : PendingReplies) (r : Reply) : List Notice × PendingReplies :=
  match p.find? r.id with
  | none => ([], p)
  | some e => (e.notify r.id (.ok r), p.remove r.id)

/-- Fails one command. -/
def fail (p : PendingReplies) (id : Uuid) (err : LinkError) : List Notice × PendingReplies :=
  match p.find? id with
  | none => ([], p)
  | some e => (e.notify id (.error err), p.remove id)

/-- Fails every command, as when the channel goes. -/
def failAll (p : PendingReplies) (err : LinkError) : List Notice × PendingReplies :=
  (p.entries.flatMap fun (id, e) => e.notify id (.error err), {})

/-- Drops every entry whose deadline has come by `now`, telling its waiter; also returns how
many were dropped. -/
def sweep (p : PendingReplies) (now : Nat) : Nat × List Notice × PendingReplies :=
  let expired := p.entries.filter (·.2.deadline ≤ now)
  (expired.length, expired.flatMap (fun (id, e) => e.notify id e.overdue),
    { entries := p.entries.filter fun x => !(x.2.deadline ≤ now) })

end PendingReplies

end Tether
