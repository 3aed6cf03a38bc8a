import Tether.Host.Provisioning
import Tether.Json.Write
/-!
# Host.Workers — running the subscriptions' workers until the host is quiet

`Host.settle` runs the background work of a host until none is left: first the requests
plugins started, then the workers in the order they were woken.  A worker takes its
events one at a time until its queue is empty, its subscription has ended, or its channel
is full; handling an event may queue events for other subscriptions and wake their
workers, which then run in turn.

Handling an event:

* the provisioning driver reacts to it (`Host.onTelemetry`);
* a journal keeps it, unless it is the event its handler fails on, which is only counted;
* a plugin's handler adds it to the events the plugin has seen;
* a channel takes it if it has room; otherwise the worker holds it and waits until the
  reader makes room (`Host.drainChannel`).

The work is finite: only the provisioning driver publishes while handling, and only on
`provisioning/state`, which none of its own subscriptions hears.  `settle` runs with fuel
for that bound.
-/

namespace Tether

open Tether.Json

set_option autoImplicit false

namespace Host

/-- Sends a screened request to the device and waits for the reply. -/
def exchange (_h : Host) (_c : Command) : Except LinkError Reply := .error .notConnected

/-- Screens and sends a request; a device's refusal is an error too. -/
def request (h : Host) (c : Command) : Except BusError Reply × Host :=
  match h.rules.screen c false with
  | .error e => (.error e, { h with fanout := h.fanout.countRejected })
  | .ok () =>
    match h.exchange c with
    | .error e => (.error (.link e), h)
    | .ok r =>
      if r.ok then (.ok r, h)
      else (.error (.rejected c.topic (r.error.getD "no reason given")), h)

/-- Runs a request a plugin started, and notes its outcome. -/
def runPluginRequest (h : Host) (plugin : String) (d : CommandDraft) : Host :=
  let (r, h) := h.request { id := default, topic := d.topic, payload := d.payload, issuer := some ⟨plugin⟩ }
  let line := match r with
    | .ok reply => "request " ++ d.topic ++ " ok=" ++ toString reply.ok ++ " " ++ reply.payload.render
    | .error e => "request " ++ d.topic ++ " " ++ e.kind
  { h with registry := h.registry.note plugin line }

/-- Runs one event through a worker's handler: the host after, and whether the worker
now waits for room in its channel. -/
def handle (h : Host) (w : Worker) (e : TelemetryEvent) : Host × Bool :=
  match w.handler with
  | .provisioning => (h.onTelemetry e, false)
  | .journal failsOn =>
    if failsOn == some e.seq then ({ h with fanout := h.fanout.countHandlerFailure }, false)
    else (h.modifyWorker w.id fun w => { w with journal := w.journal ++ [e] }, false)
  | .plugin name =>
    ({ h with registry := h.registry.modify name fun p => { p with seen := p.seen ++ [e] } }, false)
  | .channel capacity =>
    if w.channel.length < max capacity 1 then
      (h.modifyWorker w.id fun w => { w with channel := w.channel ++ [e] }, false)
    else (h.modifyWorker w.id fun w => { w with held := some e }, true)

/-- Runs a worker until its queue is empty, its subscription has ended, or it waits for
its channel; at most `fuel` events. -/
def runWorker (h : Host) (id : Nat) : Nat → Host
  | 0 => h
  | fuel + 1 =>
    match h.worker? id with
    | none => h
    | some w =>
      if w.held.isSome then h
      else match h.fanout.pop? id with
        | none => h
        | some (e, fanout) =>
          match handle { h with fanout } w e with
          | (h, true) => h
          | (h, false) => runWorker h id fuel

/-- The number of events queued for all subscriptions. -/
def queuedCount (h : Host) : Nat :=
  h.fanout.subscribers.foldl (fun n s => n + s.queue.events.length) 0

/-- Runs the waiting workers in order, each until it stops; at most `fuel` runs. -/
def runReady (h : Host) : Nat → Host
  | 0 => h
  | fuel + 1 =>
    match h.ready with
    | [] => h
    | id :: rest =>
      let h := { h with ready := rest }
      runReady (h.runWorker id (h.queuedCount + 1)) fuel

/-- Runs all background work until the host is quiet: the requests plugins started, then
the workers.  Each run of a worker either empties its queue or leaves it waiting, and
only the provisioning workers wake others, so the runs are bounded by the waiting
workers and the subscriptions. -/
def settle (h : Host) : Host :=
  let requests := h.pendingRequests
  let h := requests.foldl (fun h (p, d) => h.runPluginRequest p d) { h with pendingRequests := [] }
  h.runReady ((h.ready.length + 1) * (h.fanout.subscribers.length + 2) * 2)

/-- Reads a channel until no more arrives: what it held, then what its worker held, then
what was still queued, as the worker refills the channel each time it is read. -/
def drainChannel (h : Host) (id : Nat) : List TelemetryEvent × Host :=
  match h.worker? id with
  | none => ([], h)
  | some w =>
    let queued := if h.fanout.isSubscribed id then
        (h.fanout.subscribers.find? (·.id == id)).elim [] (·.queue.events)
      else []
    let fanout := { h.fanout with subscribers := h.fanout.subscribers.map fun s =>
        if s.id == id then { s with queue := s.queue.clear } else s }
    (w.channel ++ w.held.toList ++ queued,
      { h with fanout, ready := h.ready.filter (· != id) }.modifyWorker id
        fun w => { w with channel := [], held := none })

/-- Takes the events a journal kept since it was last read. -/
def takeJournal (h : Host) (id : Nat) : List TelemetryEvent × Host :=
  match h.worker? id with
  | none => ([], h)
  | some w => (w.journal, h.modifyWorker id fun w => { w with journal := [] })

end Host

end Tether
