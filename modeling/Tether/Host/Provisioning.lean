import Tether.Host.Basic
/-!
# Host.Provisioning — the provisioning machine at work in a host

The provisioning driver applies inputs to the state machine of `Provisioning.Machine` and
carries out its effects.  Applying an input (`Host.applyInput`) is all or nothing: the
commands the transition issues go out first, and if one cannot be sent the state, the
join timer and the sessions stay as they were.  Otherwise the timer is armed or disarmed,
an adopted address moves the active session to the device's station address, and the new
state is published on `provisioning/state`.

The driver also listens to telemetry: a portal advertisement with an `ssid`, a station
report on `wifi/sta`, and a `connected` link state (after which it publishes its state
again, since reconnecting cleared the cache).  Inputs that do not fit the current state
are ignored there.

A new session starts provisioning over (`Host.reseed`): in AP mode for a portal endpoint,
unconfigured otherwise.

No channel to a device is ever open on the host this library models, so every command
that passes the rules fails to be sent.
-/

namespace Tether

open Tether.Json

set_option autoImplicit false

namespace Host

/-- Hands a screened command to the link. -/
def send (_h : Host) (_c : Command) : Except LinkError Unit := .error .notConnected

/-- Screens a command and sends it; a refusal is counted.  A command on a reserved topic
passes only when `mayUseReserved`. -/
def dispatch (h : Host) (c : Command) (mayUseReserved : Bool) : Except BusError Unit × Host :=
  match h.rules.screen c mayUseReserved with
  | .error e => (.error e, { h with fanout := h.fanout.countRejected })
  | .ok () =>
    match h.send c with
    | .error e => (.error (.link e), h)
    | .ok () => (.ok (), h)

/-- Publishes the provisioning state. -/
def publishProvisioning (h : Host) (s : ProvisioningState) : Host :=
  { h with provisioning := s }.emit provisioningStateTopic s.toJson

/-- Starts provisioning over for a session reached through `endpoint`, or for none. -/
def reseed (h : Host) (endpoint : Option Endpoint) : Host :=
  let s := match endpoint.bind Endpoint.portalSsid with
    | some ssid => ProvisioningState.apMode ssid
    | none => .unconfigured
  { h with joinTimer := none }.publishProvisioning s

/-- Moves the active session to a device's station address: the host of its control URL
becomes `ip`. -/
def adoptAddress (h : Host) (ip : String) : Host :=
  match h.sessions.activeSession? with
  | none => h
  | some s =>
    let base := match s.endpoint with
      | .captive .. => h.config.provisioning.portalUrl
      | .direct url => url
    { h with sessions := h.sessions.updateEndpoint s.id (.direct (withHost base ip)) h.now }

/-- Carries out the effects of a transition other than issuing commands. -/
def carryOut (h : Host) : Effect → Host
  | .issue _ _ => h
  | .startJoinTimer => { h with joinTimer := some (h.clock + h.config.provisioning.joinTimeoutMs * 1000) }
  | .cancelJoinTimer => { h with joinTimer := none }
  | .adoptAddress ip => h.adoptAddress ip

/-- The command of an issue effect. -/
def issued : Effect → Option Command
  | .issue topic payload => some { id := default, topic, payload }
  | _ => none

/-- Sends the commands of a transition in order, stopping at the first that fails. -/
def sendAll (h : Host) : List Command → Except BusError Unit × Host
  | [] => (.ok (), h)
  | c :: rest =>
    match h.dispatch c true with
    | (.error e, h) => (.error e, h)
    | (.ok (), h) => sendAll h rest

/-- Applies an input to the provisioning machine. -/
def applyInput (h : Host) (i : ProvisioningInput) : Except ProvisioningError Unit × Host :=
  match h.provisioning.step i with
  | .error e => (.error e, h)
  | .ok (next, effects) =>
    match h.sendAll (effects.filterMap issued) with
    | (.error e, h) => (.error (.bus e), h)
    | (.ok (), h) => (.ok (), (effects.foldl carryOut h).publishProvisioning next)

/-- The input a station report stands for. -/
def stationInput (payload : Json) : ProvisioningInput :=
  let text (k : String) : Option String := match payload.get? k with
    | some (.str s) => some s
    | _ => none
  if payload.get? "associated" == some (.bool true) then .associated (text "ssid") (text "ip")
  else .associationFailed ((text "reason").getD "association failed")

/-- Reacts to telemetry on the topics the provisioning driver listens to. -/
def onTelemetry (h : Host) (e : TelemetryEvent) : Host :=
  if e.topic == portalAdvertisedTopic then
    match e.payload.get? "ssid" with
    | some (.str ssid) => (h.applyInput (.portalAdvertised ssid)).2
    | _ => h
  else if e.topic == wifiStaTopic then (h.applyInput (stationInput e.payload)).2
  else if e.topic == linkStateTopic then
    if e.payload.get? "state" == some (.str "connected") then
      h.emit provisioningStateTopic h.provisioning.toJson
    else h
  else h

/-- Stops the provisioning driver: its timer and its subscriptions end. -/
def stopProvisioning (h : Host) : Host :=
  let h := h.provisioningSubscriptions.foldl unsubscribe { h with joinTimer := none }
  { h with provisioningSubscriptions := [] }

end Host

end Tether
