import Tether.Config
import Tether.Net.SocketAddress
/-!
# Settings — the settings file of the host program

The program's settings file holds the host settings (`HostConfig`) at its top level, beside
two sections of its own: `http`, the address the program's API listens on, and `network`,
how the host machine joins WiFi networks.  Members of the file that are not `http` or
`network` are the host settings' own: they are collected in the order of the text and read
once the whole file is read.  As with the host settings, every field is optional.
-/

namespace Tether

open Tether.Json

set_option autoImplicit false

/-- The address of the program's HTTP API. -/
structure HttpConfig where
  bind : SocketAddress := .v4 [127, 0, 0, 1] 3001

/-- How the host machine joins WiFi networks. -/
structure NetworkConfig where
  /-- Join portal networks and scan through the system's network manager. -/
  nmcli : Bool := true
  /-- The WiFi interface to use; the network manager picks one when unset. -/
  interface : Option String := none

/-- The settings file of the program. -/
structure AppConfig where
  runtime : HostConfig := {}
  http : HttpConfig := {}
  network : NetworkConfig := {}

/-- Reads a socket address from its text. -/
def SocketAddress.decode : Decoder SocketAddress :=
  decodeParsed "socket address" fun s =>
    match SocketAddress.parse s with
    | some a => .ok a
    | none => .error "invalid socket address syntax"

/-- Reads the `http` section. -/
def HttpConfig.decode : Decoder HttpConfig :=
  Record.decode ((fun bind => ({ bind } : HttpConfig))
    <$> .field "bind" SocketAddress.decode (.default ({} : HttpConfig).bind)) "struct HttpConfig"

/-- Reads the `network` section. -/
def NetworkConfig.decode : Decoder NetworkConfig :=
  Record.decode ((fun nmcli interface => ({ nmcli, interface } : NetworkConfig))
    <$> .field "nmcli" decodeBool (.default true)
    <*> .field "interface" (decodeOption decodeString) (.default none)) "struct NetworkConfig"

/-- Reads the settings file. -/
def AppConfig.decode : Decoder AppConfig :=
  Record.decodeWithRest ((fun http network => (http, network))
      <$> .field "http" HttpConfig.decode (.default {})
      <*> .field "network" NetworkConfig.decode (.default {}))
    HostConfig.decode "struct AppConfig" fun runtime (http, network) => { runtime, http, network }

/-- The JSON form: the host settings with the two sections beside them. -/
def AppConfig.toJson (c : AppConfig) : Json :=
  match c.runtime.toJson with
  | .obj fs => Json.object (fs ++ [("http", Json.object [("bind", .str c.http.bind.render)]),
      ("network", Json.object [("nmcli", .bool c.network.nmcli),
        ("interface", Json.ofOption .str c.network.interface)])])
  | j => j

/-- Why the settings file could not be used. -/
inductive SettingsError where
  /-- The file does not decode. -/
  | invalid (path : String) (e : DecodeError)
  /-- The file could not be read. -/
  | unreadable (path : String) (reason : String)

/-- The text of a settings error, its causes joined by `: `. -/
def SettingsError.message : SettingsError → String
  | .invalid path e => "Invalid configuration in " ++ path ++ ": " ++ e.render
  | .unreadable path reason => "Failed to read " ++ path ++ ": " ++ reason

/-- Reads the settings file at `path` from its text. -/
def AppConfig.ofText (path text : String) : Except SettingsError AppConfig :=
  (decodeText AppConfig.decode text).mapError (.invalid path)

/-- Loads the settings file at `path`: defaults when there is none. -/
def AppConfig.load (path : String) : PathContent → Except SettingsError AppConfig
  | .missing => .ok {}
  | .directory => .error (.unreadable path isDirectoryReason)
  | .file text => AppConfig.ofText path text

end Tether
