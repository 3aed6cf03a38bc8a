import Tether.Bus.Fanout
import Tether.Bus.Rules
import Tether.Session.Directory
import Tether.Plugin.Registry
import Tether.Config
import Tether.Network.AccessPoint
import Tether.Provisioning.Machine
/-!
# Host.Basic — the state of a running host

A host is one value that holds everything a running process holds: the bus (its fan-out
and its command rules), the link state, the session directory, the provisioning state,
the plugin registry and the active panels, the workers of the subscriptions, and the
parts of the machine it runs on that it asks for things — the Wi-Fi joiner and the result
of scanning for access points.

Time is a count of microseconds since the host started (`clock`); instants shown to the
outside are `origin` plus that count.

## Workers

Each subscription has a worker that takes its events one at a time and hands them to a
`Handler`.  Queuing an event wakes the worker: it joins the back of `ready`, the line of
workers waiting to run, unless it is already there or waits for room in a full channel.
Running the line (`Host.settle`, in `Host.Workers`) is what the host does whenever the
operation in progress waits.
-/

namespace Tether

open Tether.Json

set_option autoImplicit false

/-- What a worker does with each event of its subscription. -/
inductive Handler where
  /-- Feeds the provisioning driver. -/
  | provisioning
  /-- Keeps the event in the worker's journal; on the given sequence number the handler
  fails instead, and the event is lost. -/
  | journal (failsOn : Option Nat)
  /-- Keeps the event among those seen by the named plugin. -/
  | plugin (name : String)
  /-- Puts the event in a channel of the given capacity, waiting while it is full. -/
  | channel (capacity : Nat)

/-- The worker of one subscription. -/
structure Worker where
  id : Nat
  handler : Handler
  /-- Events a journal handler kept and nobody has read yet. -/
  journal : List TelemetryEvent := []
  /-- Events in the channel of a channel handler, oldest first. -/
  channel : List TelemetryEvent := []
  /-- The event a channel handler waits to put in its full channel. -/
  held : Option TelemetryEvent := none

/-- The Wi-Fi client of the machine, as the host sees it: joins fail for the listed
networks and otherwise succeed after `delayMs`; a journaled joiner records every call. -/
structure Joiner where
  /-- Records its calls; a joiner that does not neither fails nor waits. -/
  journaled : Bool := true
  failing : List String := []
  delayMs : Nat := 0
  calls : List String := []

/-- A joiner that joins at once and records nothing. -/
def Joiner.silent : Joiner := { journaled := false }

/-- Everything a running host holds. -/
structure Host where
  config : HostConfig
  /-- The instant the host started. -/
  origin : Instant
  /-- Microseconds since the host started. -/
  clock : Nat := 0
  fanout : Fanout
  rules : CommandRules := {}
  link : LinkState := .disconnected
  /-- Counts the connects and disconnects begun; an attempt begun under an earlier count
  has been superseded. -/
  generation : Nat := 0
  sessions : SessionDirectory
  provisioning : ProvisioningState := .unconfigured
  /-- When the armed join timer fires, in microseconds since start. -/
  joinTimer : Option Nat := none
  /-- The subscriptions of the provisioning driver, while it runs. -/
  provisioningSubscriptions : List Nat := []
  registry : PluginRegistry := {}
  /-- The active panels by plugin name, in name order, with their patterns. -/
  panels : List (String × List String) := []
  workers : List Worker := []
  /-- Workers waiting to run, in the order they were woken. -/
  ready : List Nat := []
  /-- Requests started by plugins that have not run yet: the plugin and the command. -/
  pendingRequests : List (String × CommandDraft) := []
  joiner : Joiner
  /-- What scanning for access points gives. -/
  scan : Except NetworkError (List AccessPoint)
  /-- When housekeeping runs next; none once it has stopped or could not start. -/
  nextHousekeeping : Option Nat := none

namespace Host

/-- The current instant. -/
def now (h : Host) : Instant := h.origin.addMicros h.clock

/-- The worker of a subscription. -/
def worker? (h : Host) (id : Nat) : Option Worker := h.workers.find? (·.id == id)

/-- Changes the worker of a subscription. -/
def modifyWorker (h : Host) (id : Nat) (f : Worker → Worker) : Host :=
  { h with workers := h.workers.map fun w => if w.id == id then f w else w }

/-- Wakes the workers of the given subscriptions, in order. -/
def wake (h : Host) (ids : List Nat) : Host :=
  ids.foldl (fun h id =>
    match h.worker? id with
    | some w => if w.held.isNone && !h.ready.contains id then { h with ready := h.ready ++ [id] } else h
    | none => h) h

/-- Publishes a host event and wakes the workers it was queued for. -/
def emit (h : Host) (topic : String) (payload : Json) : Host :=
  let (_, ids, fanout) := h.fanout.emit topic payload h.now
  { h with fanout }.wake ids

/-- Sets the link state, shows it on the active session and publishes it. -/
def setLink (h : Host) (s : LinkState) : Host :=
  let sessions := match h.sessions.active with
    | some id => h.sessions.setLink id s
    | none => h.sessions
  { h with link := s, sessions }.emit linkStateTopic s.toJson

/-- Subscribes a handler to a pattern for an owner; the new worker starts at once, with
the cached values of the matching topics queued. -/
def subscribeWith (h : Host) (pattern : TopicPattern) (owner : Option PluginId)
    (handler : Handler) : Nat × Host :=
  let (id, fanout) := h.fanout.subscribe pattern owner h.now
  (id, { h with fanout, workers := h.workers ++ [{ id, handler }], ready := h.ready ++ [id] })

/-- Ends a subscription: its queue is gone, and its worker stops once it holds nothing. -/
def unsubscribe (h : Host) (id : Nat) : Host :=
  { h with fanout := h.fanout.unsubscribe id, ready := h.ready.filter (· != id) }

/-- The link state and provisioning state, and the active device, as one value. -/
def stateJson (h : Host) : Json :=
  Json.object [("link", h.link.toJson), ("provisioning", h.provisioning.toJson),
    ("active", Json.ofOption (fun (d : DeviceId) => .str d.val) h.sessions.active)]

/-- What the host shows of itself. -/
def diagnostics (h : Host) : Json :=
  Json.object [("link", h.link.toJson), ("provisioning", h.provisioning.toJson),
    ("active", Json.ofOption (fun (d : DeviceId) => .str d.val) h.sessions.active),
    ("sessions", .ofNat h.sessions.sessions.length),
    -- no request can wait for a reply while no channel is open
    ("pendingReplies", .ofNat 0),
    ("pluginsActive", .ofNat h.registry.activeCount),
    ("bus", h.fanout.diagnostics.toJson)]

end Host

end Tether
