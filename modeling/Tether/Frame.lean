import Tether.Model
/-!
# Frame — the messages on the wire between host and device

Every frame is a JSON object tagged by `type`.  A device sends `hello` (its id, and
optionally a name and a firmware version), `event` (a telemetry value on a topic with a
sequence number) and `reply` (the answer to a request).  The host sends `hello` (its client
name and the protocol version) and `request` (a command).

Encoding writes `type` first and then the fields in their declared order; an absent name,
firmware or error is left out, a payload is always written.  Decoding a device frame first
refuses a text longer than `maxFrameBytes` bytes, then reads it (`Json.decodeText`), which
finds the tag wherever it stands in the object.
-/

namespace Tether

open Tether.Json

set_option autoImplicit false

/-- The version of the protocol the host speaks. -/
def protocolVersion : Nat := 1

/-- The largest device frame accepted, in bytes. -/
def maxFrameBytes : Nat := 65536

/-- A device's hello. -/
structure DeviceHello where
  deviceId : DeviceId
  name : Option String := none
  firmware : Option String := none
  deriving DecidableEq, Repr

/-- A telemetry event as the device sends it. -/
structure EventFrame where
  topic : String
  seq : Nat
  payload : Json := .null

/-- A frame from the device. -/
inductive DeviceFrame where
  | hello (h : DeviceHello)
  | event (e : EventFrame)
  | reply (r : Reply)

/-- The host's hello. -/
structure HostHello where
  client : String
  version : Nat := protocolVersion
  deriving DecidableEq, Repr

/-- A command as the host sends it. -/
structure RequestFrame where
  id : Uuid
  topic : String
  payload : Json := .null

/-- A frame from the host. -/
inductive HostFrame where
  | hello (h : HostHello)
  | request (r : RequestFrame)

/-- Why a frame could not be used. -/
inductive CodecError where
  /-- The text is not a frame. -/
  | malformed (e : DecodeError)
  /-- A binary message came where text was expected. -/
  | binaryFrame
  /-- The text is longer than `maxFrameBytes`. -/
  | tooLarge (bytes : Nat)

namespace CodecError

/-- The text of a codec error. -/
def message : CodecError → String
  | .malformed e => "Malformed frame: " ++ e.render
  | .binaryFrame => "Expected text frame, received binary"
  | .tooLarge n => "Frame of " ++ toString n ++ " bytes exceeds limit"

/-- The kind of a codec error, as the variant name. -/
def kind : CodecError → String
  | .malformed _ => "Json"
  | .binaryFrame => "BinaryFrame"
  | .tooLarge _ => "TooLarge"

end CodecError

/-- The request frame of a command. -/
def RequestFrame.ofCommand (c : Command) : RequestFrame := { id := c.id, topic := c.topic, payload := c.payload }

/-! ## Encoding -/

/-- An optional string member, left out when absent. -/
def optionalMember (key : String) : Option String → List (String × Json)
  | some s => [(key, .str s)]
  | none => []

/-- The members of a device frame in wire order. -/
def DeviceFrame.members : DeviceFrame → List (String × Json)
  | .hello h => [("type", .str "hello"), ("deviceId", .str h.deviceId.val)] ++
      optionalMember "name" h.name ++ optionalMember "firmware" h.firmware
  | .event e => [("type", .str "event"), ("topic", .str e.topic), ("seq", .ofNat e.seq),
      ("payload", e.payload)]
  | .reply r => [("type", .str "reply"), ("id", .str r.id.render), ("ok", .bool r.ok),
      ("payload", r.payload)] ++ optionalMember "error" r.error

/-- The members of a host frame in wire order. -/
def HostFrame.members : HostFrame → List (String × Json)
  | .hello h => [("type", .str "hello"), ("client", .str h.client), ("version", .ofNat h.version)]
  | .request r => [("type", .str "request"), ("id", .str r.id.render), ("topic", .str r.topic),
      ("payload", r.payload)]

/-- The text of an object whose members keep the given order. -/
def renderMembers (ms : List (String × Json)) : String := "\x7b" ++ compactFields ms ++ "\x7d"

/-- The wire text of a device frame. -/
def DeviceFrame.encode (f : DeviceFrame) : String := renderMembers f.members

/-- The wire text of a host frame. -/
def HostFrame.encode (f : HostFrame) : String := renderMembers f.members

/-- The JSON value of a device frame, keys sorted. -/
def DeviceFrame.toJson (f : DeviceFrame) : Json := Json.object f.members

/-- The JSON value of a host frame, keys sorted. -/
def HostFrame.toJson (f : HostFrame) : Json := Json.object f.members

/-! ## Decoding -/

/-- Reads a device hello. -/
def DeviceHello.record : Record DeviceHello :=
  (fun deviceId name firmware => ({ deviceId, name, firmware } : DeviceHello))
    <$> .field "deviceId" DeviceId.decode .required
    <*> .field "name" (decodeOption decodeString) (.default none)
    <*> .field "firmware" (decodeOption decodeString) (.default none)

/-- Reads an event frame. -/
def EventFrame.record : Record EventFrame :=
  (fun topic seq payload => ({ topic, seq, payload } : EventFrame))
    <$> .field "topic" decodeString .required
    <*> .field "seq" decodeU64 .required
    <*> .field "payload" decodeJson (.default .null)

/-- Reads a device frame from its JSON. -/
def DeviceFrame.decode : Decoder DeviceFrame :=
  decodeTagged "DeviceFrame" "type"
    [.record "hello" "struct DeviceHello" (DeviceFrame.hello <$> DeviceHello.record),
     .record "event" "struct EventFrame" (DeviceFrame.event <$> EventFrame.record),
     .record "reply" "struct ReplyFrame" (DeviceFrame.reply <$> Reply.record)]

/-- Reads a host hello. -/
def HostHello.record : Record HostHello :=
  (fun client version => ({ client, version } : HostHello))
    <$> .field "client" decodeString .required
    <*> .field "version" decodeU32 .required

/-- Reads a request frame. -/
def RequestFrame.record : Record RequestFrame :=
  (fun id topic payload => ({ id, topic, payload } : RequestFrame))
    <$> .field "id" Uuid.decode .required
    <*> .field "topic" decodeString .required
    <*> .field "payload" decodeJson (.default .null)

/-- Reads a host frame from its JSON. -/
def HostFrame.decode : Decoder HostFrame :=
  decodeTagged "HostFrame" "type"
    [.record "hello" "struct HostHello" (HostFrame.hello <$> HostHello.record),
     .record "request" "struct RequestFrame" (HostFrame.request <$> RequestFrame.record)]

/-- Decodes the text of a device frame, refusing one that is too large. -/
def DeviceFrame.ofText (text : String) : Except CodecError DeviceFrame :=
  if text.utf8ByteSize > maxFrameBytes then .error (.tooLarge text.utf8ByteSize)
  else (decodeText DeviceFrame.decode text).mapError .malformed

/-- Decodes the text of a host frame. -/
def HostFrame.ofText (text : String) : Except CodecError HostFrame :=
  (decodeText HostFrame.decode text).mapError .malformed

end Tether
