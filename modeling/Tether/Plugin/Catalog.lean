import Tether.Plugin.Descriptor
import Tether.Model
import Tether.Provisioning.Machine
/-!
# Plugin.Catalog — the plugins the host ships with

Each built-in plugin is a panel over the telemetry of one device feature, with the commands
of that feature.  Telemetry topics are `<feature>/<item>` and commands `<feature>/<verb>`.
The WiFi commands are not listed here: they belong to the provisioning state machine.

`builtinPlugins` lists them in activation order.
-/

namespace Tether

set_option autoImplicit false

namespace Catalog

/-- The highest GPIO number on the supported chips. -/
def maxGpio : Int := 48

/-- Captive-portal discovery and provisioning progress. -/
def captivePortal : PluginDescriptor :=
  ((PluginDescriptor.panel "captive-portal" [portalAdvertisedTopic, provisioningStateTopic]).withTitle
    "Captive portal").capability "portal"

/-- Device information and restart. -/
def system : PluginDescriptor :=
  ((((PluginDescriptor.panel "system" ["system/*", linkStateTopic]).withTitle "System").capability
    "system").command "system/info" .empty).command "system/restart" .empty

/-- Station status and scan results. -/
def wifi : PluginDescriptor :=
  ((PluginDescriptor.panel "wifi" ["wifi/*"]).withTitle "WiFi").capability "wifi"

/-- The schema of `mqtt/config`. -/
def mqttConfigSchema : CommandSchema :=
  ((((((((CommandSchema.empty.optional "enabled" .bool).optional "uri" .string).length 1 256).optional
    "client" .string).length 1 64).optional "username" .string).optional "password" .string).optional
    "keepalive" .integer).range 0 3600

/-- The MQTT client. -/
def mqtt : PluginDescriptor :=
  (((PluginDescriptor.panel "mqtt" ["mqtt/*"]).withTitle "MQTT").capability "mqtt").command
    "mqtt/config" mqttConfigSchema

/-- The schema of `sntp/config`. -/
def sntpConfigSchema : CommandSchema :=
  (((CommandSchema.empty.optional "enabled" .bool).optional "host" .string).length 1 255).optional
    "timezone" .string

/-- Network time. -/
def sntp : PluginDescriptor :=
  ((((PluginDescriptor.panel "sntp" ["sntp/*"]).withTitle "SNTP").capability "sntp").command
    "sntp/config" sntpConfigSchema).command "sntp/sync" .empty

/-- The schema of `netif/config`. -/
def netifConfigSchema : CommandSchema :=
  ((((((CommandSchema.empty.required "interface" .string).length 1 16).optional "dhcp" .bool).optional
    "ip" .string).optional "netmask" .string).optional "gateway" .string).optional "dns" .array

/-- Network interfaces. -/
def networkInterfaces : PluginDescriptor :=
  (((PluginDescriptor.panel "network-interfaces" ["netif/*"]).withTitle "Network interfaces").capability
    "netif").command "netif/config" netifConfigSchema

/-- The schema of `buzzer/play`. -/
def buzzerPlaySchema : CommandSchema :=
  (((CommandSchema.empty.required "frequency" .integer).range 20 20000).required "duration"
    .integer).range 1 10000

/-- A buzzer under the given name; several may be attached, so the capability is shared. -/
def buzzer (name : String) : PluginDescriptor :=
  ((((PluginDescriptor.panel name ["buzzer/*"]).withTitle "Buzzer").capability "buzzer").makeComposable).command
    "buzzer/play" buzzerPlaySchema

/-- The device's task list. -/
def debugTasks : PluginDescriptor :=
  ((((PluginDescriptor.panel "debug-tasks" ["debug/tasks"]).withTitle "Tasks").capability
    "debug").makeComposable).command "debug/tasks/refresh" .empty

/-- The schema of `debug/pins/set`. -/
def pinsSetSchema : CommandSchema :=
  (((CommandSchema.empty.required "pin" .integer).range 0 maxGpio).required "level" .integer).range 0 1

/-- The schema of `debug/pins/mode`. -/
def pinsModeSchema : CommandSchema :=
  (((CommandSchema.empty.required "pin" .integer).range 0 maxGpio).required "mode" .string).length 1 16

/-- The device's GPIO pins. -/
def debugPins : PluginDescriptor :=
  (((((PluginDescriptor.panel "debug-pins" ["debug/pins/*"]).withTitle "Pins").capability
    "debug").makeComposable).command "debug/pins/set" pinsSetSchema).command "debug/pins/mode"
    pinsModeSchema

/-- The schema of `i2c/scan`. -/
def i2cScanSchema : CommandSchema :=
  (CommandSchema.empty.optional "port" .integer).range 0 1

/-- The I2C bus scanner. -/
def i2cScanner : PluginDescriptor :=
  (((PluginDescriptor.panel "i2c-scanner" ["i2c/*"]).withTitle "I2C scanner").capability "i2c").command
    "i2c/scan" i2cScanSchema

end Catalog

/-- The built-in plugins, in activation order. -/
def builtinPlugins : List PluginDescriptor :=
  [Catalog.debugPins, Catalog.captivePortal, Catalog.system, Catalog.wifi, Catalog.mqtt, Catalog.sntp,
   Catalog.networkInterfaces, Catalog.buzzer "buzzer", Catalog.debugTasks, Catalog.i2cScanner]

/-- The schema a command topic has in the host: a provisioning command, or a command of a
built-in plugin. -/
def presetSchema? (topic : String) : Option CommandSchema :=
  (commandSchemas ++ builtinPlugins.flatMap (·.commands)).lookup topic

/-- A built-in plugin by its name (the buzzer under its default name). -/
def builtinPlugin? (name : String) : Option PluginDescriptor :=
  builtinPlugins.find? (·.name == name)

end Tether
