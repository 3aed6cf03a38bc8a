import Tether.Host.Connect
import Tether.Plugin.Catalog
/-!
# Host.Start — starting and stopping a host, and what its users call

Starting a host (`Host.start`):

1. reads the auto-stale rules of the settings (a malformed pattern stops the start);
2. starts the provisioning driver: the Wi-Fi commands are reserved with their schemas,
   and the driver subscribes to portal advertisements, station reports and the link
   state;
3. registers the plugins in order, each with the schemas of its commands, and activates
   them;
4. starts housekeeping.

Stopping it (`Host.shutdown`) disposes the plugins, stops the provisioning driver, lets
the link go and stops housekeeping.  Stopping twice only lets the link go again.

The rest of this module is what a user of the host calls beside connecting: subscribing
with a handler, publishing commands and host events, and the provisioning actions.
-/

namespace Tether

open Tether.Json

set_option autoImplicit false

/-- What a host starts from: its settings, its plugins, its configuration store, and what
the machine it runs on does when asked to join a network or scan for access points. -/
structure HostSetup where
  config : HostConfig := {}
  plugins : List PluginDescriptor := builtinPlugins
  store : ConfigStore := { kind := .memory }
  joiner : Joiner := Joiner.silent
  scan : Except NetworkError (List AccessPoint) := .ok []
  /-- The instant the host starts. -/
  origin : Instant := default

namespace Host

/-- The topics the provisioning driver listens to. -/
def provisioningTopics : List String := [portalAdvertisedTopic, wifiStaTopic, linkStateTopic]

/-- Starts the provisioning driver. -/
def startProvisioning (h : Host) : Host :=
  let h := { h with rules := commandSchemas.foldl (fun r (t, s) => r.reserve t s) h.rules }
  provisioningTopics.foldl (fun h t =>
    match TopicPattern.parse t with
    | .ok p =>
      let (id, h) := h.subscribeWith p none .provisioning
      { h with provisioningSubscriptions := h.provisioningSubscriptions ++ [id] }
    | .error _ => h) h

/-- The last-value cache the settings describe. -/
def cacheOf (c : HostConfig) : Except StartError LastValueCache :=
  c.session.autostale.foldlM (fun cache r =>
    match TopicPattern.parse r.pattern with
    | .ok p => .ok (cache.withAutostale p (Span.ofMillis r.afterMs))
    | .error e => .error (.pattern e)) {}

/-- Starts a host. -/
def start (s : HostSetup) : Except StartError Host := do
  let cache ← cacheOf s.config
  let h : Host := {
    config := s.config, origin := s.origin,
    fanout := Fanout.new cache s.config.bus.subscriberBuffer,
    sessions := { store := s.store, expiry := Span.ofMillis s.config.session.expiryMs },
    joiner := s.joiner, scan := s.scan }
  let h := h.startProvisioning
  let h ← s.plugins.foldlM (fun h d => (h.registerPlugin d).mapError StartError.registry) h
  let h := { h with registry := { h.registry with started := true } }
  let (_, h) ← (h.activateAll).mapError StartError.registry
  let interval := s.config.session.housekeepingIntervalMs
  pure { h with nextHousekeeping := if interval = 0 then none else some (interval * microsPerMilli) }

/-- Stops a host. -/
def shutdown (h : Host) : Host :=
  { h.disposePlugins.stopProvisioning.closeLink with nextHousekeeping := none }

/-- Subscribes a handler to a pattern: the subscription's id and its pattern, normalised. -/
def subscribe (h : Host) (pattern : String) (handler : Handler) :
    Except BusError ((Nat × String) × Host) :=
  match TopicPattern.parse pattern with
  | .error e => .error (.pattern e)
  | .ok p =>
    let (id, h) := h.subscribeWith p none handler
    .ok ((id, p.raw), h)

/-- Publishes a command without waiting for a reply. -/
def publish (h : Host) (topic : String) (payload : Json) : Except BusError Unit × Host :=
  h.dispatch { id := default, topic, payload } false

/-- Sends a request and waits for the reply. -/
def ask (h : Host) (topic : String) (payload : Json) : Except BusError Reply × Host :=
  h.request { id := default, topic, payload }

/-- Publishes host events back to back. -/
def emitAll (h : Host) (events : List (String × Json)) : Host :=
  events.foldl (fun h (t, p) => h.emit t p) h

/-- Asks provisioning to scan for networks. -/
def requestScan (h : Host) : Except ProvisioningError Unit × Host := h.applyInput .scanRequested

/-- Hands provisioning the credentials of a network. -/
def submitCredentials (h : Host) (ssid password : String) : Except ProvisioningError Unit × Host :=
  h.applyInput (.credentialsSubmitted ssid password)

/-- Asks provisioning to try again after a fault. -/
def retryProvisioning (h : Host) : Except ProvisioningError Unit × Host := h.applyInput .retryRequested

/-- Asks provisioning to reset the device's network settings. -/
def factoryReset (h : Host) : Except ProvisioningError Unit × Host := h.applyInput .factoryReset

end Host

/-- What a wait expects of a host: a link state tag, a provisioning state tag and a
number of sessions, each only if given. -/
structure Expectation where
  link : Option String := none
  provisioning : Option String := none
  sessions : Option Nat := none

/-- Whether a host meets an expectation. -/
def Expectation.holds (x : Expectation) (h : Host) : Bool :=
  x.link.all (· == h.link.tag) && x.provisioning.all (· == h.provisioning.name) &&
    x.sessions.all (· == h.sessions.sessions.length)

end Tether
