import Tether.Host.Clock
import Tether.Link.Dial
/-!
# Host.Connect — selecting a device, and letting it go

Connecting to an endpoint replaces the current session.  Several connects may run at
once (`Host.connectAll`, started together and resumed in list order); each begins by
superseding every attempt begun before it, then takes the link, one attempt at a time,
in the order they asked for it.  Holding the link, an attempt:

1. gives up with `cancelled` if a newer connect or a disconnect has begun meanwhile;
2. deactivates the current session and starts the next telemetry epoch;
3. for a portal endpoint, shows `joiningPortal` and joins the device's network — this
   may fail, or take time, during which a newer attempt cancels it; a failed or
   cancelled join leaves the network again;
4. shows `connecting` and opens the control channel (`dialFailure`), which on this host
   fails; a joined portal network is left again;
5. shows `disconnected` and reports the failure.

A connect that fails for any reason but cancellation starts provisioning over with no
session (a cancelled one leaves that to the attempt that superseded it).

Disconnecting supersedes any attempt, destroys the active session (the saved selection
stays) and starts the next epoch; forgetting the device also removes the saved selection.
Probing for portals registers every access point whose network name starts with the
portal prefix as a session reached through the portal, and announces it on
`portal/advertised`.
-/

namespace Tether

open Tether.Json

set_option autoImplicit false

/-- Where a connect attempt stands. -/
inductive AttemptStage where
  /-- Not yet begun. -/
  | fresh
  /-- Waiting for the link. -/
  | waiting
  /-- Joining a portal network until the given time. -/
  | joining (ssid : String) (deadline : Nat)
  | finished (result : Except LinkError DeviceId)

namespace AttemptStage

/-- Whether an attempt has finished. -/
def isFinished : AttemptStage → Bool
  | .finished _ => true
  | _ => false

end AttemptStage

/-- One connect attempt. -/
structure Attempt where
  endpoint : Endpoint
  /-- The generation it began under. -/
  token : Nat := 0
  stage : AttemptStage := .fresh

/-- Which attempt holds the link and which wait for it, in order. -/
structure LinkLock where
  holder : Option Nat := none
  waiters : List Nat := []

namespace Host

/-- Records a call to the joiner. -/
def noteJoiner (h : Host) (call : String) : Host :=
  if h.joiner.journaled then { h with joiner := { h.joiner with calls := h.joiner.calls ++ [call] } }
  else h

/-- Leaves a portal network. -/
def leavePortal (h : Host) (ssid : String) : Host := h.noteJoiner ("leave " ++ ssid)

/-- Ends an attempt that holds the link with a failure: the link shows disconnected and
the failure is reported. -/
def failAttempt (h : Host) (e : LinkError) : Host × AttemptStage :=
  (h.setLink .disconnected, .finished (.error e))

/-- Opens the control channel after any portal network was joined. -/
def openChannel (h : Host) (a : Attempt) (portal : Option String) : Host × AttemptStage :=
  let h := h.setLink .connecting
  let e := dialFailure a.endpoint.url h.config.transport.connectTimeoutMs
  let h := match portal with
    | some ssid => h.leavePortal ssid
    | none => h
  h.failAttempt e

/-- Runs an attempt that has just taken the link. -/
def beginHolding (h : Host) (a : Attempt) : Host × AttemptStage :=
  if a.token < h.generation then (h, .finished (.error .cancelled))
  else
    let h := { h with sessions := h.sessions.deactivate, fanout := h.fanout.resetSession }
    match a.endpoint with
    | .direct _ => h.openChannel a none
    | .captive ssid passphrase _ =>
      let h := h.setLink .joiningPortal
      let call := match passphrase with
        | some p => "join " ++ ssid ++ " " ++ p
        | none => "join " ++ ssid
      let h := h.noteJoiner call
      if h.joiner.journaled && h.joiner.failing.contains ssid then
        let reason := NetworkError.failed "nmcli" "exit status: 10"
          ("No network with SSID '" ++ ssid ++ "' found.")
        (h.leavePortal ssid).failAttempt (.portalJoin ssid reason.message)
      else if h.joiner.journaled && 0 < h.joiner.delayMs then
        (h, .joining ssid (h.clock + h.joiner.delayMs * microsPerMilli))
      else h.openChannel a (some ssid)

/-- Whether an attempt can move on without time passing. -/
def canStep (h : Host) (lock : LinkLock) (i : Nat) (a : Attempt) : Bool :=
  match a.stage with
  | .fresh => true
  | .waiting => lock.holder == some i
  | .joining _ deadline => a.token < h.generation || deadline ≤ h.clock
  | .finished _ => false

/-- Resumes attempt `i` as far as it can go now. -/
def stepAttempt (h : Host) (lock : LinkLock) (i : Nat) (a : Attempt) :
    Host × LinkLock × Attempt :=
  let hold (h : Host) (lock : LinkLock) (a : Attempt) : Host × LinkLock × Attempt :=
    let (h, stage) := h.beginHolding a
    (h, lock, { a with stage })
  match a.stage with
  | .fresh =>
    let h := { h with generation := h.generation + 1 }
    let a := { a with token := h.generation }
    match lock.holder with
    | none => hold h { lock with holder := some i } a
    | some _ => (h, { lock with waiters := lock.waiters ++ [i] }, { a with stage := .waiting })
  | .waiting => if lock.holder == some i then hold h lock a else (h, lock, a)
  | .joining ssid deadline =>
    if a.token < h.generation then
      let (h, stage) := (h.leavePortal ssid).failAttempt .cancelled
      (h, lock, { a with stage })
    else if deadline ≤ h.clock then
      let (h, stage) := h.openChannel a (some ssid)
      (h, lock, { a with stage })
    else (h, lock, a)
  | .finished _ => (h, lock, a)

/-- Hands the link on when attempt `i` has finished holding it. -/
def release (lock : LinkLock) (i : Nat) (a : Attempt) : LinkLock :=
  match a.stage with
  | .finished _ =>
    if lock.holder == some i then
      match lock.waiters with
      | [] => { holder := none, waiters := [] }
      | w :: rest => { holder := some w, waiters := rest }
    else lock
  | _ => lock

/-- What a finished attempt leaves for provisioning: a failure other than cancellation
starts it over with no session. -/
def afterAttempt (h : Host) (a : Attempt) : Host :=
  match a.stage with
  | .finished (.error .cancelled) => h
  | .finished (.error _) => h.reseed none
  | _ => h

/-- Resumes attempt `i` unless it has finished; one that finishes now hands the link on and
leaves provisioning what it needs. -/
def visitAttempt (h : Host) (lock : LinkLock) (i : Nat) (a : Attempt) : Host × LinkLock × Attempt :=
  match a.stage with
  | .finished _ => (h, lock, a)
  | _ =>
    let (h, lock, a') := h.stepAttempt lock i a
    let lock := release lock i a'
    let h := match a'.stage with
      | .finished _ => h.afterAttempt a'
      | _ => h
    (h, lock, a')

/-- Resumes every unfinished attempt once, in list order. -/
def stepAll (h : Host) (lock : LinkLock) : Nat → List Attempt → Host × LinkLock × List Attempt
  | _, [] => (h, lock, [])
  | i, a :: rest =>
    let (h, lock, a') := h.visitAttempt lock i a
    let (h, lock, rest') := stepAll h lock (i + 1) rest
    (h, lock, a' :: rest')

/-- Whether every attempt has finished. -/
def allFinished (as : List Attempt) : Bool := as.all (·.stage.isFinished)

/-- The earliest end of a join so far, after looking at attempt `a`. -/
def joinEndStep (acc : Option Nat) (a : Attempt) : Option Nat :=
  match a.stage, acc with
  | .joining _ t, some u => some (min t u)
  | .joining _ t, none => some t
  | _, acc => acc

/-- The earliest time a joining attempt finishes its join. -/
def nextJoinEnd (as : List Attempt) : Option Nat := as.foldl joinEndStep none

/-- Runs attempts to the end: resume them all in order, let background work run, and let
time pass to the next join that ends when none can move on; at most `fuel` rounds. -/
def runAttempts (h : Host) (lock : LinkLock) (as : List Attempt) : Nat → Host × List Attempt
  | 0 => (h, as)
  | fuel + 1 =>
    let (h, lock, as) := h.stepAll lock 0 as
    if allFinished as then (h, as)
    else
      let h := h.settle
      let movable := (as.zipIdx.any fun (a, i) => h.canStep lock i a)
      if movable then runAttempts h lock as fuel
      else match nextJoinEnd as with
        | some t => runAttempts (h.advanceTo t) lock as fuel
        | none => (h, as)

/-- Connects to every endpoint at once: the result of each, in order. -/
def connectAll (h : Host) (endpoints : List Endpoint) :
    List (Except LinkError DeviceId) × Host :=
  let (h, as) := h.runAttempts {} (endpoints.map fun e => { endpoint := e }) (4 * endpoints.length + 4)
  (as.map fun a => match a.stage with
    | .finished r => r
    | _ => .error .cancelled, h)

/-- Connects to one endpoint. -/
def connect (h : Host) (e : Endpoint) : Except LinkError DeviceId × Host :=
  match h.connectAll [e] with
  | ([r], h) => (r, h)
  | (_, h) => (.error .cancelled, h)

/-- Closes the link and destroys the active session; the saved selection stays. -/
def closeLink (h : Host) : Host :=
  let h := { h with generation := h.generation + 1 }
  let (_, sessions) := h.sessions.close
  let h := { h with sessions, fanout := h.fanout.resetSession }
  if h.link != .disconnected then h.setLink .disconnected else h

/-- Lets the device go, keeping the saved selection for the next start. -/
def disconnect (h : Host) : Host := h.closeLink.reseed none

/-- Lets the device go and forgets it. -/
def forgetDevice (h : Host) : Host :=
  let active := h.sessions.active
  let h := h.closeLink
  let h := match active with
    | some id => { h with sessions := h.sessions.forget id }
    | none => h
  h.reseed none

/-- Connects to the saved selection, if there is one. -/
def reconnectLast (h : Host) : Except LinkError (Option DeviceId) × Host :=
  match h.sessions.lastSelected with
  | none => (.ok none, h)
  | some last =>
    let (r, h) := h.connect last.endpoint
    (r.map some, h)

/-- Looks for devices offering their own access point and registers them. -/
def probePortal (h : Host) : Except LinkError (List DeviceSession) × Host :=
  match h.scan with
  | .error e => (.error (.portalScan e.message), h)
  | .ok aps =>
    let p := h.config.provisioning
    let found := aps.filter (·.ssid.startsWith p.portalSsidPrefix)
    let (sessions, h) := found.foldl (fun (acc, h) ap =>
      let (s, dir) := h.sessions.discovered ⟨ap.ssid⟩ (.captive ap.ssid p.portalPassphrase p.portalUrl) h.now
      let h := { h with sessions := dir }
      let payload := Json.object [("ssid", .str ap.ssid), ("signal", Json.ofOption Json.ofNat ap.signal),
        ("secured", .bool ap.secured)]
      (acc ++ [s], h.emit portalAdvertisedTopic payload)) ([], h)
    (.ok sessions, h)

end Host

end Tether
