import Tether.Schema
/-!
# Plugin.Descriptor — what a plugin declares before it runs

A plugin is known by its name.  It carries capability tags (a tag is claimed by one plugin,
unless every plugin carrying it is composable), the topic patterns it may subscribe to, the
commands it may issue with their payload schemas, and its behaviour once activated:

* a *panel* keeps the latest value of each topic that matches its patterns;
* a *probe* runs a fixed script: it reads cached values, subscribes, publishes and starts
  requests, and keeps a log of all it saw.

Descriptors are built from `PluginDescriptor.new` by the chaining functions below, each
adding one declaration at the end.
-/

namespace Tether

open Tether.Json

set_option autoImplicit false

/-- A command a probe issues: its topic and payload. -/
structure CommandDraft where
  topic : String
  payload : Json := .null

/-- The script a probe plugin runs when activated. -/
structure ProbeScript where
  /-- Patterns whose cached values it counts first. -/
  cached : List String := []
  /-- Patterns it subscribes to, in order. -/
  subscribe : List String := []
  /-- Commands it publishes after subscribing. -/
  publish : List CommandDraft := []
  /-- Commands it sends as requests, each waiting for its reply. -/
  request : List CommandDraft := []

/-- What a plugin does once activated. -/
inductive PluginBehaviour where
  /-- Show the latest value of each topic matching these patterns. -/
  | panel (patterns : List String)
  | probe (script : ProbeScript)

/-- The static description of a plugin. -/
structure PluginDescriptor where
  name : String
  title : String
  capabilities : List String := []
  /-- May share its capabilities with other composable plugins. -/
  composable : Bool := false
  topics : List String := []
  commands : List (String × CommandSchema) := []
  behaviour : PluginBehaviour

namespace PluginDescriptor

/-- A plugin that declares nothing yet; its title is its name. -/
def new (name : String) (behaviour : PluginBehaviour) : PluginDescriptor :=
  { name, title := name, behaviour }

/-- Sets the title. -/
def withTitle (d : PluginDescriptor) (title : String) : PluginDescriptor := { d with title }

/-- Adds a capability tag. -/
def capability (d : PluginDescriptor) (tag : String) : PluginDescriptor :=
  { d with capabilities := d.capabilities ++ [tag] }

/-- Lets the plugin share its capabilities with other composable plugins. -/
def makeComposable (d : PluginDescriptor) : PluginDescriptor := { d with composable := true }

/-- Declares a topic pattern the plugin listens to. -/
def topic (d : PluginDescriptor) (pattern : String) : PluginDescriptor :=
  { d with topics := d.topics ++ [pattern] }

/-- Declares a command the plugin may issue. -/
def command (d : PluginDescriptor) (topic : String) (schema : CommandSchema) : PluginDescriptor :=
  { d with commands := d.commands ++ [(topic, schema)] }

/-- Whether the plugin carries a capability tag. -/
def hasCapability (d : PluginDescriptor) (tag : String) : Bool := d.capabilities.contains tag

/-- A panel plugin over the given patterns, which it also declares as its topics. -/
def panel (name : String) (patterns : List String) : PluginDescriptor :=
  patterns.foldl topic (new name (.panel patterns))

/-- The listing of a descriptor: name, title, tags, composability, topics and commands. -/
def toJson (d : PluginDescriptor) : Json :=
  Json.object [("name", .str d.name), ("title", .str d.title),
    ("capabilities", .arr (d.capabilities.map .str)), ("composable", .bool d.composable),
    ("topics", .arr (d.topics.map .str)),
    ("commands", .arr (d.commands.map fun (t, s) => .arr [.str t, s.toJson]))]

end PluginDescriptor

end Tether
