import Tether.Reconnect
import Tether.Storage
/-!
# Config — the settings of the host

The host's settings come from one JSON document with four sections: the link to the device
(`transport`), the bus, provisioning, and sessions.  Every field is optional: a missing
field, or a missing section, takes its default, and members that name no field are
ignored.  Only an auto-stale rule must give both its pattern and its interval.

All durations are whole milliseconds.
-/

namespace Tether

open Tether.Json

set_option autoImplicit false

/-- Settings of the link to the device. -/
structure LinkConfig where
  /-- The name the host gives in its hello. -/
  clientName : String := "devlink"
  /-- Covers connecting, the socket upgrade and the device's hello. -/
  connectTimeoutMs : Nat := 5000
  heartbeatIntervalMs : Nat := 10000
  /-- No traffic from the device for this long counts as losing the link. -/
  idleTimeoutMs : Nat := 30000
  replyTimeoutMs : Nat := 5000
  outboundQueue : Nat := 64
  backoff : ReconnectPolicy := {}
  deriving Inhabited

/-- Settings of the bus. -/
structure BusConfig where
  /-- Events kept per topic for each subscriber before the oldest is dropped. -/
  subscriberBuffer : Nat := 32
  deriving DecidableEq, Repr, Inhabited

/-- Settings of provisioning. -/
structure ProvisioningConfig where
  joinTimeoutMs : Nat := 30000
  /-- The SSID prefix that marks a device's own access point. -/
  portalSsidPrefix : String := "esp32m-"
  portalPassphrase : Option String := none
  /-- The control URL while joined to a device's access point. -/
  portalUrl : String := "ws://192.168.4.1/ws"
  deriving DecidableEq, Repr, Inhabited

/-- Marks cached values on matching topics stale after `afterMs`. -/
structure AutostaleRule where
  pattern : String
  afterMs : Nat
  deriving DecidableEq, Repr

/-- Settings of sessions. -/
structure SessionConfig where
  /-- Inactive sessions not heard of for this long are forgotten. -/
  expiryMs : Nat := 120000
  housekeepingIntervalMs : Nat := 1000
  autostale : List AutostaleRule := []
  deriving DecidableEq, Repr, Inhabited

/-- All settings of the host. -/
structure HostConfig where
  transport : LinkConfig := {}
  bus : BusConfig := {}
  provisioning : ProvisioningConfig := {}
  session : SessionConfig := {}
  deriving Inhabited

/-! ## Equality

Settings compare field by field; the float fields of the back-off compare as numbers, so
`0.0` equals `-0.0`. -/

/-- Whether two back-off policies are equal. -/
def ReconnectPolicy.same (a b : ReconnectPolicy) : Bool :=
  a.initialDelayMs == b.initialDelayMs && a.maxDelayMs == b.maxDelayMs && a.factor == b.factor &&
    a.jitter == b.jitter && a.maxAttempts == b.maxAttempts

/-- Whether two link settings are equal. -/
def LinkConfig.same (a b : LinkConfig) : Bool :=
  a.clientName == b.clientName && a.connectTimeoutMs == b.connectTimeoutMs &&
    a.heartbeatIntervalMs == b.heartbeatIntervalMs && a.idleTimeoutMs == b.idleTimeoutMs &&
    a.replyTimeoutMs == b.replyTimeoutMs && a.outboundQueue == b.outboundQueue &&
    a.backoff.same b.backoff

/-- Whether two settings are equal. -/
def HostConfig.same (a b : HostConfig) : Bool :=
  a.transport.same b.transport && decide (a.bus = b.bus) && decide (a.provisioning = b.provisioning) &&
    decide (a.session = b.session)

/-! ## JSON forms -/

/-- The JSON form of link settings. -/
def LinkConfig.toJson (c : LinkConfig) : Json :=
  Json.object [("clientName", .str c.clientName), ("connectTimeoutMs", .ofNat c.connectTimeoutMs),
    ("heartbeatIntervalMs", .ofNat c.heartbeatIntervalMs), ("idleTimeoutMs", .ofNat c.idleTimeoutMs),
    ("replyTimeoutMs", .ofNat c.replyTimeoutMs), ("outboundQueue", .ofNat c.outboundQueue),
    ("backoff", c.backoff.toJson)]

/-- The JSON form of all settings. -/
def HostConfig.toJson (c : HostConfig) : Json :=
  Json.object [("transport", c.transport.toJson),
    ("bus", Json.object [("subscriberBuffer", .ofNat c.bus.subscriberBuffer)]),
    ("provisioning", Json.object [("joinTimeoutMs", .ofNat c.provisioning.joinTimeoutMs),
      ("portalSsidPrefix", .str c.provisioning.portalSsidPrefix),
      ("portalPassphrase", Json.ofOption .str c.provisioning.portalPassphrase),
      ("portalUrl", .str c.provisioning.portalUrl)]),
    ("session", Json.object [("expiryMs", .ofNat c.session.expiryMs),
      ("housekeepingIntervalMs", .ofNat c.session.housekeepingIntervalMs),
      ("autostale", .arr (c.session.autostale.map fun r =>
        Json.object [("pattern", .str r.pattern), ("afterMs", .ofNat r.afterMs)]))])]

/-- Reads link settings. -/
def LinkConfig.decode : Decoder LinkConfig :=
  let d : LinkConfig := {}
  Record.decode (LinkConfig.mk <$> .field "clientName" decodeString (.default d.clientName)
    <*> .field "connectTimeoutMs" decodeU64 (.default d.connectTimeoutMs)
    <*> .field "heartbeatIntervalMs" decodeU64 (.default d.heartbeatIntervalMs)
    <*> .field "idleTimeoutMs" decodeU64 (.default d.idleTimeoutMs)
    <*> .field "replyTimeoutMs" decodeU64 (.default d.replyTimeoutMs)
    <*> .field "outboundQueue" decodeUsize (.default d.outboundQueue)
    <*> .field "backoff" ReconnectPolicy.decode (.default d.backoff)) "struct TransportConfig"

/-- Reads bus settings. -/
def BusConfig.decode : Decoder BusConfig :=
  Record.decode ((fun subscriberBuffer => ({ subscriberBuffer } : BusConfig))
    <$> .field "subscriberBuffer" decodeUsize (.default 32)) "struct BusConfig"

/-- Reads provisioning settings. -/
def ProvisioningConfig.decode : Decoder ProvisioningConfig :=
  let d : ProvisioningConfig := {}
  Record.decode ((fun joinTimeoutMs portalSsidPrefix portalPassphrase portalUrl =>
      ({ joinTimeoutMs, portalSsidPrefix, portalPassphrase, portalUrl } : ProvisioningConfig))
    <$> .field "joinTimeoutMs" decodeU64 (.default d.joinTimeoutMs)
    <*> .field "portalSsidPrefix" decodeString (.default d.portalSsidPrefix)
    <*> .field "portalPassphrase" (decodeOption decodeString) (.default none)
    <*> .field "portalUrl" decodeString (.default d.portalUrl)) "struct ProvisioningConfig"

/-- Reads an auto-stale rule. -/
def AutostaleRule.decode : Decoder AutostaleRule :=
  Record.decode (AutostaleRule.mk <$> .field "pattern" decodeString .required
    <*> .field "afterMs" decodeU64 .required) "struct AutostaleRule"

/-- Reads session settings. -/
def SessionConfig.decode : Decoder SessionConfig :=
  let d : SessionConfig := {}
  Record.decode ((fun expiryMs housekeepingIntervalMs autostale =>
      ({ expiryMs, housekeepingIntervalMs, autostale } : SessionConfig))
    <$> .field "expiryMs" decodeU64 (.default d.expiryMs)
    <*> .field "housekeepingIntervalMs" decodeU64 (.default d.housekeepingIntervalMs)
    <*> .field "autostale" (decodeList AutostaleRule.decode) (.default [])) "struct SessionConfig"

/-- Reads all settings. -/
def HostConfig.decode : Decoder HostConfig :=
  Record.decode ((fun transport bus provisioning session =>
      ({ transport, bus, provisioning, session } : HostConfig))
    <$> .field "transport" LinkConfig.decode (.default {})
    <*> .field "bus" BusConfig.decode (.default {})
    <*> .field "provisioning" ProvisioningConfig.decode (.default {})
    <*> .field "session" SessionConfig.decode (.default {})) "struct DevlinkConfig"

/-- Reads the settings document; a document that does not decode is invalid data. -/
def HostConfig.ofText (text : String) : Except ConfigError HostConfig :=
  (decodeText HostConfig.decode text).mapError fun e => .invalidData e.render

/-- Loads the settings file at `path`: defaults when there is none. -/
def HostConfig.load (path : String) : PathContent → Except ConfigError HostConfig
  | .missing => .ok {}
  | .directory => .error (.readError (path ++ ": " ++ isDirectoryReason))
  | .file text => HostConfig.ofText text

/-- The durations of the settings, in milliseconds, by name. -/
def HostConfig.durations (c : HostConfig) : List (String × Nat) :=
  [("connectTimeout", c.transport.connectTimeoutMs), ("heartbeatInterval", c.transport.heartbeatIntervalMs),
   ("idleTimeout", c.transport.idleTimeoutMs), ("replyTimeout", c.transport.replyTimeoutMs),
   ("joinTimeout", c.provisioning.joinTimeoutMs), ("expiry", c.session.expiryMs),
   ("housekeepingInterval", c.session.housekeepingIntervalMs)]

end Tether
