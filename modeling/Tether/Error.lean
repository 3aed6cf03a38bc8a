import Tether.Frame
import Tether.Schema
import Tether.Topic
/-!
# Error — why a runtime operation failed

One inductive per layer, each wrapping the layer below it:

* `LinkError` — the channel to the device (connecting, sending, waiting for replies);
* `BusError` — publishing, requesting and subscribing on the host bus;
* `RegistryError` — registering and activating plugins;
* `ProvisioningError` — user actions on the provisioning state machine;
* `StartError` — starting the whole host.

Each has `message`, the text shown to a user, and `kind`, the path of variant names from
the outermost error to the innermost (`BusError::Transport/TransportError::NotConnected`).
A wrapping variant shows the message of what it wraps unchanged.
-/

namespace Tether

set_option autoImplicit false

/-- Why an operation on the channel to the device failed. -/
inductive LinkError where
  | connectTimeout (url : String)
  | connectRefused (url : String)
  /-- No channel to a device is open. -/
  | notConnected
  /-- The outbound queue is full. -/
  | queueFull
  | replyTimeout (topic : String) (timeoutMs : Nat)
  /-- A newer session or a disconnect superseded the operation. -/
  | cancelled
  | portalJoin (ssid message : String)
  | portalScan (message : String)
  | handshake (message : String)
  | codec (e : CodecError)
  /-- The socket layer failed; the text says how. -/
  | socket (message : String)

namespace LinkError

/-- The text of a link error. -/
def message : LinkError → String
  | .connectTimeout url => "Connect to " ++ url ++ " timed out"
  | .connectRefused url => "Connection to " ++ url ++ " refused"
  | .notConnected => "No channel to the device is open"
  | .queueFull => "Outbound queue is full"
  | .replyTimeout topic ms => "No reply to '" ++ topic ++ "' within " ++ toString ms ++ " ms"
  | .cancelled => "Operation cancelled by session change"
  | .portalJoin ssid msg => "Joining portal network '" ++ ssid ++ "' failed: " ++ msg
  | .portalScan msg => "Portal scan failed: " ++ msg
  | .handshake msg => "Handshake failed: " ++ msg
  | .codec e => e.message
  | .socket msg => "WebSocket error: " ++ msg

/-- The variant path of a link error. -/
def kind : LinkError → String
  | .connectTimeout _ => "TransportError::ConnectTimeout"
  | .connectRefused _ => "TransportError::ConnectRefused"
  | .notConnected => "TransportError::NotConnected"
  | .queueFull => "TransportError::QueueFull"
  | .replyTimeout _ _ => "TransportError::ReplyTimeout"
  | .cancelled => "TransportError::Cancelled"
  | .portalJoin _ _ => "TransportError::PortalJoin"
  | .portalScan _ => "TransportError::PortalScan"
  | .handshake _ => "TransportError::Handshake"
  | .codec e => "TransportError::Codec/CodecError::" ++ e.kind
  | .socket _ => "TransportError::WebSocket"

end LinkError

/-- Why a bus operation failed. -/
inductive BusError where
  | schemaViolation (v : SchemaViolation)
  | pattern (e : PatternError)
  | link (e : LinkError)
  /-- The device answered the request with `ok: false`. -/
  | rejected (topic reason : String)
  /-- The topic belongs to the provisioning state machine. -/
  | reserved (topic : String)
  /-- A plugin subscribed outside the topics it declared. -/
  | undeclaredTopic (plugin pattern : String)

namespace BusError

/-- The text of a bus error. -/
def message : BusError → String
  | .schemaViolation v => v.message
  | .pattern e => e.message
  | .link e => e.message
  | .rejected topic reason => "Device rejected '" ++ topic ++ "': " ++ reason
  | .reserved topic => "Topic '" ++ topic ++ "' is reserved for provisioning"
  | .undeclaredTopic plugin pat =>
    "Plugin '" ++ plugin ++ "' did not declare topic pattern '" ++ pat ++ "'"

/-- The variant path of a bus error. -/
def kind : BusError → String
  | .schemaViolation _ => "BusError::SchemaViolation"
  | .pattern e => "BusError::Pattern/PatternError::" ++ e.kind
  | .link e => "BusError::Transport/" ++ e.kind
  | .rejected _ _ => "BusError::Rejected"
  | .reserved _ => "BusError::Reserved"
  | .undeclaredTopic _ _ => "BusError::UndeclaredTopic"

end BusError

/-- Why registering or activating plugins failed. -/
inductive RegistryError where
  | duplicateCapability (capability owner : String)
  | duplicatePlugin (name : String)
  | notStarted
  | disposed
  deriving DecidableEq, Repr

namespace RegistryError

/-- The text of a registry error. -/
def message : RegistryError → String
  | .duplicateCapability c owner => "Capability '" ++ c ++ "' already claimed by '" ++ owner ++ "'"
  | .duplicatePlugin name => "Plugin '" ++ name ++ "' is already registered"
  | .notStarted => "Plugins cannot be activated before the shell has started"
  | .disposed => "Registry has been disposed"

/-- The variant path of a registry error. -/
def kind : RegistryError → String
  | .duplicateCapability _ _ => "RegistryError::DuplicateCapability"
  | .duplicatePlugin _ => "RegistryError::DuplicatePlugin"
  | .notStarted => "RegistryError::ShellNotStarted"
  | .disposed => "RegistryError::Disposed"

end RegistryError

/-- Why a provisioning action failed. -/
inductive ProvisioningError where
  | invalidCredentials (reason : String)
  /-- The action is not allowed in the named state. -/
  | invalidTransition (state action : String)
  | bus (e : BusError)

namespace ProvisioningError

/-- The text of a provisioning error. -/
def message : ProvisioningError → String
  | .invalidCredentials reason => "Invalid credentials: " ++ reason
  | .invalidTransition state action => "Cannot " ++ action ++ " while " ++ state
  | .bus e => e.message

/-- The variant path of a provisioning error. -/
def kind : ProvisioningError → String
  | .invalidCredentials _ => "ProvisioningError::InvalidCredentials"
  | .invalidTransition _ _ => "ProvisioningError::InvalidTransition"
  | .bus e => "ProvisioningError::Bus/" ++ e.kind

end ProvisioningError

/-- Why the host could not start. -/
inductive StartError where
  | registry (e : RegistryError)
  | bus (e : BusError)
  | pattern (e : PatternError)

namespace StartError

/-- The text of a start error. -/
def message : StartError → String
  | .registry e => e.message
  | .bus e => e.message
  | .pattern e => e.message

/-- The variant path of a start error. -/
def kind : StartError → String
  | .registry e => "ShellError::Registry/" ++ e.kind
  | .bus e => "ShellError::Bus/" ++ e.kind
  | .pattern e => "ShellError::Pattern/PatternError::" ++ e.kind

end StartError

end Tether
