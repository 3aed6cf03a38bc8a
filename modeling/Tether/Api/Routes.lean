import Tether.Api.Exchange
import Tether.Host.Start
/-!
# Api.Routes — the web interface of a host

| method | path | answer |
|---|---|---|
| GET | `/api/sessions` | the known sessions |
| GET | `/api/state` | link, provisioning and the active session |
| GET | `/api/diagnostics` | the host's counters |
| GET | `/api/plugins` | the plugin listings |
| GET | `/api/panels/{name}` | what an active panel shows, or 404 |
| GET | `/api/telemetry/{pattern…}` | the cached values matching a pattern |
| POST | `/api/commands` | publish `{topic, payload?, wait?}`; with `wait`, the reply |
| POST | `/api/connect` | connect to an endpoint: `{deviceId}` |
| POST | `/api/disconnect` | 204 |
| POST | `/api/portal/probe` | the sessions found |
| POST | `/api/provisioning/scan`, `credentials`, `retry`, `reset` | 202 |

A request target is matched by its path: a target may be a whole URL, whose scheme and
authority are not looked at, and the fragment (from `#`) and the query (from `?`) are not
part of the path.  A path that no route has is 404 and a method the
route does not take is 405, both without a body; a GET route also answers HEAD, without
the body.  The name of a panel is one path segment and the pattern of the telemetry route
is the rest of the path, both after percent-decoding, neither empty; one that does not
decode to UTF-8 is refused with 400.
-/

namespace Tether

open Tether.Json

set_option autoImplicit false

/-- A route of the web interface. -/
inductive Route where
  | sessions
  | state
  | diagnostics
  | plugins
  | panel (name : String)
  | telemetry (pattern : String)
  /-- A reading route whose named path parameter is not UTF-8 once percent-decoded. -/
  | undecodable (param : String)
  | commands
  | connect
  | disconnect
  | probe
  | scan
  | credentials
  | retry
  | reset

/-- The value of a hexadecimal digit. -/
def hexValue (c : Char) : Option Nat :=
  if '0' ≤ c && c ≤ '9' then some (c.toNat - '0'.toNat)
  else if 'a' ≤ c && c ≤ 'f' then some (c.toNat - 'a'.toNat + 10)
  else if 'A' ≤ c && c ≤ 'F' then some (c.toNat - 'A'.toNat + 10)
  else none

/-- The bytes of a path segment with each `%` and two hexadecimal digits decoded. -/
def percentBytes : List Char → List UInt8
  | '%' :: a :: b :: rest =>
    match hexValue a, hexValue b with
    | some x, some y => (x * 16 + y).toUInt8 :: percentBytes rest
    | _, _ => '%'.toNat.toUInt8 :: percentBytes (a :: b :: rest)
  | c :: rest => (String.singleton c).toUTF8.toList ++ percentBytes rest
  | [] => []

/-- A path segment percent-decoded, or none when the result is not UTF-8. -/
def percentDecode? (s : String) : Option String :=
  String.fromUTF8? (ByteArray.mk (percentBytes s.toList).toArray)

namespace Route

/-- The path a request target names: the path of the target read as a URL (a target may be
a path or a whole URL); a target that does not read is taken as written, up to its
fragment or query. -/
def requestPath (target : String) : String :=
  match Uri.parse target with
  | .ok u => u.path
  | .error _ => (((target.splitOn "#").headD "").splitOn "?").headD ""

/-- The route of a request target. -/
def ofPath (target : String) : Option Route :=
  let path := requestPath target
  let afterPrefix (pre : String) : Option String :=
    if path.startsWith pre then some (String.ofList (path.toList.drop pre.length)) else none
  match path with
  | "/api/sessions" => some .sessions
  | "/api/state" => some .state
  | "/api/diagnostics" => some .diagnostics
  | "/api/plugins" => some .plugins
  | "/api/commands" => some .commands
  | "/api/connect" => some .connect
  | "/api/disconnect" => some .disconnect
  | "/api/portal/probe" => some .probe
  | "/api/provisioning/scan" => some .scan
  | "/api/provisioning/credentials" => some .credentials
  | "/api/provisioning/retry" => some .retry
  | "/api/provisioning/reset" => some .reset
  | _ =>
    match afterPrefix "/api/panels/" with
    | some name =>
      if name.isEmpty || name.toList.contains '/' then none
      else some ((percentDecode? name).elim (.undecodable "name") .panel)
    | none =>
      match afterPrefix "/api/telemetry/" with
      | some rest =>
        if rest.isEmpty then none
        else some ((percentDecode? rest).elim (.undecodable "topic") .telemetry)
      | none => none

/-- Whether a route reads (GET) rather than acts (POST). -/
def reads : Route → Bool
  | .sessions | .state | .diagnostics | .plugins | .panel _ | .telemetry _ | .undecodable _ => true
  | _ => false

end Route

/-- A command as the web interface takes it. -/
structure CommandRequest where
  topic : String
  payload : Json := .null
  wait : Bool := false

/-- Reads a command request. -/
def CommandRequest.decode : Decoder CommandRequest :=
  Record.decode ((fun topic payload wait => ({ topic, payload, wait } : CommandRequest))
    <$> .field "topic" decodeString .required
    <*> .field "payload" decodeJson (.default .null)
    <*> .field "wait" decodeBool (.default false)) "struct CommandRequest"

/-- Network credentials as the web interface takes them. -/
structure Credentials where
  ssid : String
  password : String := ""

/-- Reads credentials. -/
def Credentials.decode : Decoder Credentials :=
  Record.decode ((fun ssid password => ({ ssid, password } : Credentials))
    <$> .field "ssid" decodeString .required
    <*> .field "password" decodeString (.default "")) "struct Credentials"

namespace Host

/-- What a panel shows, as JSON: by topic, the sequence number, payload, receive time and
staleness of its value. -/
def panelJson (values : List (String × CachedValue)) : Json :=
  Json.object (values.map fun (t, v) => (t, Json.object [("seq", .ofNat v.event.seq),
    ("payload", v.event.payload), ("receivedAt", v.event.receivedAt.toJson), ("stale", .bool v.stale)]))

/-- The cached values matching a pattern, as the telemetry route shows them. -/
def telemetryJson (values : List CachedValue) : Json :=
  .arr (values.map fun v => Json.object [("topic", .str v.event.topic), ("seq", .ofNat v.event.seq),
    ("payload", v.event.payload), ("receivedAt", v.event.receivedAt.toJson),
    ("ageMs", .ofNat (v.age.secs * 1000 + v.age.nanos / 1000000)), ("stale", .bool v.stale)])

/-- The answer to a provisioning action. -/
def accepted (r : Except ProvisioningError Unit × Host) : HttpResponse × Host :=
  match r with
  | (.ok (), h) => (.bare 202, h)
  | (.error e, h) => (e.response, h)

/-- Serves a request on a route. -/
def serveRoute (h : Host) (req : HttpRequest) : Route → HttpResponse × Host
  | .sessions => (.ok (.arr (h.sessions.sessions.map DeviceSession.toJson)), h)
  | .state =>
    (.ok (Json.object [("link", h.link.toJson), ("provisioning", h.provisioning.toJson),
      ("active", Json.ofOption DeviceSession.toJson h.sessions.activeSession?)]), h)
  | .diagnostics => (.ok h.diagnostics, h)
  | .plugins => (.ok (.arr h.registry.summaries), h)
  | .panel name =>
    match h.panelSnapshot name with
    | some values => (.ok (panelJson values), h)
    | none => (.bare 404, h)
  | .telemetry pattern =>
    match h.cachedFor pattern with
    | .ok values => (.ok (telemetryJson values), h)
    | .error e => (e.response, h)
  | .undecodable param =>
    ({ status := 400, body := .text ("Invalid URL: Invalid UTF-8 in `" ++ param ++ "`") }, h)
  | .commands =>
    match req.jsonBody CommandRequest.decode with
    | .error r => (r, h)
    | .ok c =>
      if c.wait then
        match h.ask c.topic c.payload with
        | (.ok reply, h) => (.ok reply.toJson, h)
        | (.error e, h) => (e.response, h)
      else
        match h.publish c.topic c.payload with
        | (.ok (), h) => (.ok (Json.object [("id", .str (default : Uuid).render)]), h)
        | (.error e, h) => (e.response, h)
  | .connect =>
    match req.jsonBody Endpoint.decode with
    | .error r => (r, h)
    | .ok e =>
      match h.connect e with
      | (.ok id, h) => (.ok (Json.object [("deviceId", .str id.val)]), h)
      | (.error err, h) => (err.response, h)
  | .disconnect => (.bare 204, h.disconnect)
  | .probe =>
    match h.probePortal with
    | (.ok found, h) => (.ok (.arr (found.map DeviceSession.toJson)), h)
    | (.error e, h) => (e.response, h)
  | .scan => accepted h.requestScan
  | .credentials =>
    match req.jsonBody Credentials.decode with
    | .error r => (r, h)
    | .ok c => accepted (h.submitCredentials c.ssid c.password)
  | .retry => accepted h.retryProvisioning
  | .reset => accepted h.factoryReset

/-- Serves a request. -/
def serve (h : Host) (req : HttpRequest) : HttpResponse × Host :=
  match Route.ofPath req.path with
  | none => (.bare 404, h)
  | some route =>
    if route.reads then
      if req.method == "GET" then h.serveRoute req route
      else if req.method == "HEAD" then
        let (r, h) := h.serveRoute req route
        ({ r with body := .empty }, h)
      else (.bare 405, h)
    else if req.method == "POST" then h.serveRoute req route
    else (.bare 405, h)

end Host

end Tether
