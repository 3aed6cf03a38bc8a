import Tether.Json.Decode
import Tether.Json.Write
import Tether.Time
import Tether.Uuid
/-!
# Model — devices, endpoints, link and provisioning states, commands and telemetry

The nouns shared by the transport, the bus and provisioning, with their JSON forms.

* An `Endpoint` is how a device is reached: `direct` at a URL, or `captive` behind the
  device's own access point, which must be joined first (`{"kind": "captive", "ssid",
  "passphrase"?, "url"}`).
* `LinkState` is the state of the channel to the active device, `Provisioning.State` the
  network-join lifecycle of the device; both are objects tagged by `state`.
* A `Command` goes to a device topic with a payload and an id; its `capability` is the
  topic's first segment.  A `Reply` answers it; a `TelemetryEvent` is a device-reported
  value on a topic with a per-topic sequence number.

Every JSON object is written with sorted keys; decoding follows `Json.Decode`.
-/

namespace Tether

open Tether.Json

set_option autoImplicit false

/-- The identifier a device reports in its hello. -/
structure DeviceId where
  val : String
  deriving DecidableEq, Repr, Inhabited

/-- The name of a registered plugin. -/
structure PluginId where
  val : String
  deriving DecidableEq, Repr, Inhabited

instance : Ord DeviceId := ⟨fun a b => compare a.val b.val⟩

/-- How a device's control endpoint is reached. -/
inductive Endpoint where
  | direct (url : String)
  /-- The device is its own access point: join `ssid` (with `passphrase`) before `url`
  can be reached. -/
  | captive (ssid : String) (passphrase : Option String) (url : String)
  deriving DecidableEq, Repr, Inhabited

namespace Endpoint

/-- The control URL. -/
def url : Endpoint → String
  | .direct u => u
  | .captive _ _ u => u

/-- The portal network to join first, if any. -/
def portalSsid : Endpoint → Option String
  | .direct _ => none
  | .captive s _ _ => some s

/-- `url`, or `url via AP 'ssid'`. -/
def display : Endpoint → String
  | .direct u => u
  | .captive s _ u => u ++ " via AP '" ++ s ++ "'"

/-- The members of the JSON form in declaration order; an absent passphrase is left out. -/
def members : Endpoint → List (String × Json)
  | .direct u => [("kind", .str "direct"), ("url", .str u)]
  | .captive s p u =>
    [("kind", .str "captive"), ("ssid", .str s)] ++
      (match p with | some p => [("passphrase", .str p)] | none => []) ++ [("url", .str u)]

/-- The JSON form. -/
def toJson (e : Endpoint) : Json := Json.object e.members

/-- The written form, members in declaration order. -/
def written (e : Endpoint) : Json := .obj e.members

/-- Reads the JSON form. -/
def decode : Decoder Endpoint :=
  decodeTagged "Endpoint" "kind"
    [.record "direct" "struct variant Endpoint::Direct"
        (Endpoint.direct <$> .field "url" decodeString .required),
     .record "captive" "struct variant Endpoint::Captive"
        (Endpoint.captive <$> .field "ssid" decodeString .required
          <*> .field "passphrase" (decodeOption decodeString) (.default none)
          <*> .field "url" decodeString .required)]

end Endpoint

/-- The state of the channel to the active device. -/
inductive LinkState where
  | disconnected
  /-- Joining the device's own access point. -/
  | joiningPortal
  | connecting
  | connected
  | reconnecting (attempt : Nat)
  /-- Retries exhausted; terminal until the user connects again. -/
  | unreachable
  deriving DecidableEq, Repr, Inhabited

namespace LinkState

/-- The tag of the JSON form. -/
def tag : LinkState → String
  | .disconnected => "disconnected"
  | .joiningPortal => "joiningPortal"
  | .connecting => "connecting"
  | .connected => "connected"
  | .reconnecting _ => "reconnecting"
  | .unreachable => "unreachable"

/-- Whether the channel is up. -/
def isConnected : LinkState → Bool
  | .connected => true
  | _ => false

/-- Whether the state is terminal. -/
def isTerminal : LinkState → Bool
  | .unreachable => true
  | _ => false

/-- The JSON form. -/
def toJson : LinkState → Json
  | .reconnecting n => Json.object [("state", .str "reconnecting"), ("attempt", .ofNat n)]
  | s => Json.object [("state", .str s.tag)]

/-- Reads the JSON form. -/
def decode : Decoder LinkState :=
  decodeTagged "ConnectionState" "state"
    [.unit "disconnected" .disconnected, .unit "joiningPortal" .joiningPortal,
     .unit "connecting" .connecting, .unit "connected" .connected,
     .record "reconnecting" "struct variant ConnectionState::Reconnecting"
       (LinkState.reconnecting <$> .field "attempt" decodeU32 .required),
     .unit "unreachable" .unreachable]

end LinkState

/-- Why provisioning ended faulted. -/
inductive FaultReason where
  /-- No association was reported within the join window. -/
  | provisioningTimeout
  /-- The device reported that association failed. -/
  | deviceRejected (reason : String)
  deriving DecidableEq, Repr

namespace FaultReason

/-- The text shown for a fault. -/
def display : FaultReason → String
  | .provisioningTimeout => "provisioning timed out"
  | .deviceRejected r => "device rejected join: " ++ r

/-- The JSON form. -/
def toJson : FaultReason → Json
  | .provisioningTimeout => Json.object [("kind", .str "provisioningTimeout")]
  | .deviceRejected r => Json.object [("kind", .str "deviceRejected"), ("reason", .str r)]

/-- Reads the JSON form. -/
def decode : Decoder FaultReason :=
  decodeTagged "FaultReason" "kind"
    [.unit "provisioningTimeout" .provisioningTimeout,
     .record "deviceRejected" "struct variant FaultReason::DeviceRejected"
       (FaultReason.deviceRejected <$> .field "reason" decodeString .required)]

end FaultReason

/-- The network-join lifecycle of the device. -/
inductive ProvisioningState where
  | unconfigured
  /-- The device advertises its own access point. -/
  | apMode (ssid : String)
  | scanning
  | joining (ssid : String)
  | joined (ssid : String)
  | faulted (reason : FaultReason)
  deriving DecidableEq, Repr

namespace ProvisioningState

instance : Inhabited ProvisioningState := ⟨.unconfigured⟩

/-- The short name of a state, which is also its tag. -/
def name : ProvisioningState → String
  | .unconfigured => "unconfigured"
  | .apMode _ => "apMode"
  | .scanning => "scanning"
  | .joining _ => "joining"
  | .joined _ => "joined"
  | .faulted _ => "faulted"

/-- The JSON form. -/
def toJson : ProvisioningState → Json
  | .apMode s => Json.object [("state", .str "apMode"), ("ssid", .str s)]
  | .joining s => Json.object [("state", .str "joining"), ("ssid", .str s)]
  | .joined s => Json.object [("state", .str "joined"), ("ssid", .str s)]
  | .faulted r => Json.object [("state", .str "faulted"), ("reason", r.toJson)]
  | s => Json.object [("state", .str s.name)]

/-- The record of a variant with one `ssid` field. -/
def ssidVariant (tag : String) (variantName : String) (mk : String → ProvisioningState) :
    Variant ProvisioningState :=
  .record tag ("struct variant ProvisioningState::" ++ variantName)
    (mk <$> .field "ssid" decodeString .required)

/-- Reads the JSON form. -/
def decode : Decoder ProvisioningState :=
  decodeTagged "ProvisioningState" "state"
    [.unit "unconfigured" .unconfigured,
     ssidVariant "apMode" "ApMode" .apMode,
     .unit "scanning" .scanning,
     ssidVariant "joining" "Joining" .joining,
     ssidVariant "joined" "Joined" .joined,
     .record "faulted" "struct variant ProvisioningState::Faulted"
       (ProvisioningState.faulted <$> .field "reason" FaultReason.decode .required)]

end ProvisioningState

/-! ## Identifiers and times as JSON -/

/-- A device id is its text. -/
def DeviceId.decode : Decoder DeviceId := fun src n => (decodeString src n).map DeviceId.mk

/-- A plugin id is its text. -/
def PluginId.decode : Decoder PluginId := fun src n => (decodeString src n).map PluginId.mk

/-- A command id is the text of a UUID. -/
def Uuid.decode : Decoder Uuid :=
  decodeParsed "a formatted UUID string" fun s =>
    match Uuid.parse s with
    | .ok u => .ok u
    | .error e => .error ("UUID parsing failed: " ++ e.message)

/-- An instant is its RFC 3339 text. -/
def Instant.decode : Decoder Instant :=
  decodeParsed "an RFC 3339 formatted date and time string" fun s =>
    match Instant.parse s with
    | .ok t => .ok t
    | .error e => .error e.message

/-- The JSON text of an instant. -/
def Instant.toJson (t : Instant) : Json := .str t.render

/-! ## Sessions, commands, replies, telemetry -/

/-- A known device and how to reach it. -/
structure DeviceSession where
  id : DeviceId
  link : LinkState
  endpoint : Endpoint
  lastSeen : Instant
  /-- Discovered through a captive-portal advertisement. -/
  viaPortal : Bool
  deriving DecidableEq, Repr

namespace DeviceSession

/-- A new session: disconnected, seen `now`, via the portal iff the endpoint is captive. -/
def new (id : DeviceId) (endpoint : Endpoint) (now : Instant) : DeviceSession :=
  { id, link := .disconnected, endpoint, lastSeen := now, viaPortal := endpoint.portalSsid.isSome }

/-- The JSON form. -/
def toJson (s : DeviceSession) : Json :=
  Json.object [("id", .str s.id.val), ("link", s.link.toJson), ("endpoint", s.endpoint.toJson),
    ("lastSeen", s.lastSeen.toJson), ("viaPortal", .bool s.viaPortal)]

/-- Reads the JSON form. -/
def decode : Decoder DeviceSession :=
  Record.decode (DeviceSession.mk <$> .field "id" DeviceId.decode .required
    <*> .field "link" LinkState.decode .required
    <*> .field "endpoint" Endpoint.decode .required
    <*> .field "lastSeen" Instant.decode .required
    <*> .field "viaPortal" decodeBool (.default false)) "struct DeviceSession"

end DeviceSession

/-- A command addressed to a device topic. -/
structure Command where
  id : Uuid
  topic : String
  payload : Json
  /-- The plugin that issued it, for lookup only. -/
  issuer : Option PluginId := none
  deriving Inhabited

namespace Command

/-- The capability a command addresses: the text before the first `/` of its topic. -/
def capability (c : Command) : String := (c.topic.splitOn "/").headD ""

/-- The JSON form; an absent issuer is left out. -/
def toJson (c : Command) : Json :=
  Json.object ([("id", .str c.id.render), ("topic", .str c.topic), ("payload", c.payload)] ++
    (match c.issuer with | some p => [("issuer", .str p.val)] | none => []))

/-- Reads the JSON form. -/
def decode : Decoder Command :=
  Record.decode ((fun id topic payload issuer => ({ id, topic, payload, issuer } : Command))
    <$> .field "id" Uuid.decode .required
    <*> .field "topic" decodeString .required
    <*> .field "payload" decodeJson .required
    <*> .field "issuer" (decodeOption PluginId.decode) (.default none)) "struct Command"

end Command

/-- A device's answer to a command. -/
structure Reply where
  id : Uuid
  ok : Bool
  payload : Json
  error : Option String
  deriving Inhabited

namespace Reply

/-- The JSON form; an absent error is left out. -/
def toJson (r : Reply) : Json :=
  Json.object ([("id", .str r.id.render), ("ok", .bool r.ok), ("payload", r.payload)] ++
    (match r.error with | some e => [("error", .str e)] | none => []))

/-- The fields of a reply, as a record; `name` names it in errors. -/
def record : Record Reply :=
  Reply.mk <$> .field "id" Uuid.decode .required
    <*> .field "ok" decodeBool .required
    <*> .field "payload" decodeJson (.default .null)
    <*> .field "error" (decodeOption decodeString) (.default none)

/-- Reads the JSON form. -/
def decode : Decoder Reply := record.decode "struct CommandReply"

end Reply

/-- A value a device reported on a topic. -/
structure TelemetryEvent where
  topic : String
  /-- Increases per topic; used to drop repeats and reordering. -/
  seq : Nat
  payload : Json
  receivedAt : Instant
  deriving Inhabited

namespace TelemetryEvent

/-- The JSON form. -/
def toJson (e : TelemetryEvent) : Json :=
  Json.object [("topic", .str e.topic), ("seq", .ofNat e.seq), ("payload", e.payload),
    ("receivedAt", e.receivedAt.toJson)]

/-- Reads the JSON form. -/
def decode : Decoder TelemetryEvent :=
  Record.decode (TelemetryEvent.mk <$> .field "topic" decodeString .required
    <*> .field "seq" decodeU64 .required
    <*> .field "payload" decodeJson .required
    <*> .field "receivedAt" Instant.decode .required) "struct TelemetryEvent"

end TelemetryEvent

/-- The device last connected to, as saved for reconnecting at start. -/
structure LastSession where
  deviceId : DeviceId
  endpoint : Endpoint
  savedAt : Instant
  deriving DecidableEq, Repr

namespace LastSession

/-- The JSON form. -/
def toJson (s : LastSession) : Json :=
  Json.object [("deviceId", .str s.deviceId.val), ("endpoint", s.endpoint.toJson),
    ("savedAt", s.savedAt.toJson)]

/-- The written form, members in declaration order. -/
def written (s : LastSession) : Json :=
  .obj [("deviceId", .str s.deviceId.val), ("endpoint", s.endpoint.written),
    ("savedAt", s.savedAt.toJson)]

/-- Reads the JSON form. -/
def decode : Decoder LastSession :=
  Record.decode (LastSession.mk <$> .field "deviceId" DeviceId.decode .required
    <*> .field "endpoint" Endpoint.decode .required
    <*> .field "savedAt" Instant.decode .required) "struct LastSession"

end LastSession

/-- Topics the host itself produces. -/
def linkStateTopic : String := "link/state"
def portalAdvertisedTopic : String := "portal/advertised"
def provisioningStateTopic : String := "provisioning/state"
def wifiStaTopic : String := "wifi/sta"

end Tether
