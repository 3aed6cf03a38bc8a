import Tether.Host.Start
import Tether.Link.Handshake
import Tether.Link.Recovery
/-!
# Host.Session — a connect whose channel opens, and the link that reads it

`Host.Connect` follows a connect on the host this library models, where no channel ever
opens.  Here one connect runs in a world that answers (`ConnectAnswers`): whether a newer
connect or a disconnect superseded it before it took the link, how joining the device's
portal network ends, and how opening the channel ends (`ChannelAnswer`).  Holding the link,
the connect (`Host.connectOver`):

1. gives up with `cancelled` if it was superseded;
2. deactivates the current session and starts the next telemetry epoch;
3. for a portal endpoint, shows `joiningPortal` and joins the network; a failed or cancelled
   join leaves it again;
4. shows `connecting` and greets the device (`handshake`); a channel that does not open
   leaves a joined portal network again;
5. on failure shows `disconnected` and reports why;
6. on success makes the device that said hello the active session, starts provisioning over
   for it (`Host.reseed`: in AP mode for a portal endpoint), shows `connected`, and hands the
   link the epoch and the messages the device sent after its hello (`SessionLink`).

The shell's connect (`Host.shellConnectOver`) then starts provisioning over with no session
after a failure other than cancellation, by the rule every attempt follows
(`Host.afterAttempt`).

The link (`Host.runLink`) reads the device's messages one at a time.  Each marks the device
heard from; a text frame that is an event is offered to the bus in the link's epoch and
queued for the subscriptions it matches (`Host.deliver`); replies, repeated hellos,
malformed and binary frames, pings and pongs change nothing here.  A close or a failure of
the socket ends the link, and recovery (`Link.Recovery`) takes over.  The link waits for
every message, so the host's background work (`Host.settle`) runs between two of them.

Commands sent over the open channel are the subject of `Link.Transport`, and replies go to
its pending table (`Link.Pending`); the host value here holds neither.
-/

namespace Tether

open Tether.Json

set_option autoImplicit false

/-- What the world answers to one connect. -/
structure ConnectAnswers where
  /-- A newer connect or a disconnect began before this one took the link. -/
  superseded : Bool := false
  /-- How joining the endpoint's portal network ends, when it has one. -/
  join : JoinAnswer := .joined
  channel : ChannelAnswer

/-- The link a successful connect leaves running. -/
structure SessionLink where
  device : DeviceId
  /-- The telemetry epoch the device's events are offered under. -/
  epoch : Nat
  /-- What the device sent after its hello, not yet read. -/
  inbound : List WireMessage

/-- Why a message ends the link, if it does. -/
def WireMessage.endsLink? : WireMessage → Option String
  | .close => some "closed by device"
  | .failure reason => some reason
  | _ => none

/-- A device's event, stamped with the instant it arrived. -/
def EventFrame.received (e : EventFrame) (arrival : Instant) : TelemetryEvent :=
  { topic := e.topic, seq := e.seq, payload := e.payload, receivedAt := arrival }

namespace Host

/-- The call joining a portal network makes to the joiner: the network, then its passphrase
when it has one. -/
def joinText (ssid : String) (passphrase : Option String) : String :=
  "join " ++ ssid ++ (passphrase.map (" " ++ ·)).getD ""

/-- Joins the portal network of a portal endpoint: the network joined (none for a direct
endpoint), or why the connect stops; a failed or cancelled join leaves the network again,
since it may have been joined in part. -/
def joinPortalOver (h : Host) (ep : Endpoint) (join : JoinAnswer) :
    Except LinkError (Option String) × Host :=
  match ep with
  | .direct _ => (.ok none, h)
  | .captive ssid passphrase _ =>
    let h := (h.setLink .joiningPortal).noteJoiner (joinText ssid passphrase)
    match join with
    | .joined => (.ok (some ssid), h)
    | .failed message => (.error (.portalJoin ssid message), h.leavePortal ssid)
    | .cancelled => (.error .cancelled, h.leavePortal ssid)

/-- Opens the control channel with the portal network `portal` joined: the device's hello
and the messages after it, or why the channel did not open, after which a joined portal
network is left again. -/
def openChannelOver (h : Host) (portal : Option String) (channel : ChannelAnswer) :
    Except LinkError (DeviceHello × List WireMessage) × Host :=
  let h := h.setLink .connecting
  match channel.greet with
  | .ok greeting => (.ok greeting, h)
  | .error e =>
    (.error e, match portal with
      | some ssid => h.leavePortal ssid
      | none => h)

/-- Begins the session of the device that said hello, reached through `ep`: it becomes the
active session, provisioning starts over for it before the link reads anything, and the
link shows connected. -/
def beginSession (h : Host) (ep : Endpoint) (hello : DeviceHello) : Host :=
  let h := { h with sessions := h.sessions.activate hello.deviceId ep h.now }
  (h.reseed (some ep)).setLink .connected

/-- Connects to `ep` as the world answers: the running link, or why the connect failed. -/
def connectOver (h : Host) (ep : Endpoint) (answers : ConnectAnswers) :
    Except LinkError SessionLink × Host :=
  -- every attempt begun before this one is superseded
  let h := { h with generation := h.generation + 1 }
  if answers.superseded then (.error .cancelled, h)
  else
    let h := { h with sessions := h.sessions.deactivate, fanout := h.fanout.resetSession }
    let epoch := h.fanout.epoch
    let opened := match h.joinPortalOver ep answers.join with
      | (.ok portal, h) => h.openChannelOver portal answers.channel
      | (.error e, h) => (.error e, h)
    match opened with
    | (.error e, h) => (.error e, h.setLink .disconnected)
    | (.ok (hello, inbound), h) => (.ok { device := hello.deviceId, epoch, inbound }, h.beginSession ep hello)

/-- The shell's connect: a failure other than cancellation starts provisioning over with no
session. -/
def shellConnectOver (h : Host) (ep : Endpoint) (answers : ConnectAnswers) :
    Except LinkError SessionLink × Host :=
  let (r, h) := h.connectOver ep answers
  (r, h.afterAttempt { endpoint := ep, stage := .finished (r.map (·.device)) })

/-- Offers an event the device sent during `epoch` to the bus, and wakes the workers it was
queued for. -/
def deliver (h : Host) (epoch : Nat) (e : TelemetryEvent) : Host :=
  let (_, ids, fanout) := h.fanout.deliver epoch e
  { h with fanout }.wake ids

/-- Handles a text frame of the device: an event is offered to the bus in the link's epoch,
stamped with the instant it arrived; any other frame, or a text that is no frame, changes
nothing here. -/
def handleFrame (h : Host) (epoch : Nat) (text : String) : Host :=
  match DeviceFrame.ofText text with
  | .ok (.event e) => h.deliver epoch (e.received h.now)
  | _ => h

/-- Reads one message of the link: the device was heard from, and a text frame is
handled. -/
def readMessage (h : Host) (link : SessionLink) (m : WireMessage) : Host :=
  let h := { h with sessions := h.sessions.touch link.device h.now }
  match m with
  | .text t => h.handleFrame link.epoch t
  | _ => h

/-- Reads messages in order, the background work running after each, until one ends the
link: the host then, and why the link ended, if it did. -/
def runLink (h : Host) (link : SessionLink) : List WireMessage → Host × Option String
  | [] => (h, none)
  | m :: rest =>
    let h := h.readMessage link m
    match m.endsLink? with
    | some reason => (h, some reason)
    | none => h.settle.runLink link rest

end Host

end Tether
