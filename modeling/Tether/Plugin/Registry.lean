import Tether.Plugin.Descriptor
import Tether.Error
/-!
# Plugin.Registry — the plugins of a host and where each is in its life

Plugins are registered by descriptor, in order, before the host activates them.  A name is
registered once, and a capability tag belongs to one plugin unless both the plugin that
carries it and the newcomer are composable; registering checks the name first, then each
tag of the newcomer in order against the registered plugins in order.

Each entry moves through `registered → active | failed`, `active → inactive` when the
plugins are deactivated, and to `disposed` with the registry.  A disposed registry takes
nothing more, and activation needs a started host.

An entry also keeps what its plugin did while active: the subscriptions it made (released
when it stops), and for a probe its notes and the events it has seen.
-/

namespace Tether

open Tether.Json

set_option autoImplicit false

/-- Where a plugin is in its life. -/
inductive Lifecycle where
  | registered
  | active
  /-- Its activation failed. -/
  | failed
  | inactive
  | disposed
  deriving DecidableEq, Repr

/-- The tag of a lifecycle state. -/
def Lifecycle.tag : Lifecycle → String
  | .registered => "registered"
  | .active => "active"
  | .failed => "failed"
  | .inactive => "inactive"
  | .disposed => "disposed"

/-- A registered plugin and what it did. -/
structure PluginEntry where
  descriptor : PluginDescriptor
  state : Lifecycle := .registered
  /-- The subscriptions it made while active, in order. -/
  subscriptions : List Nat := []
  /-- A probe's notes, oldest first. -/
  notes : List String := []
  /-- Events a probe has seen and nobody has read yet. -/
  seen : List TelemetryEvent := []

/-- The listing of a plugin for a user interface. -/
def PluginEntry.summary (e : PluginEntry) : Json :=
  Json.object [("name", .str e.descriptor.name), ("title", .str e.descriptor.title),
    ("capabilities", .arr (e.descriptor.capabilities.map .str)),
    ("topics", .arr (e.descriptor.topics.map .str)),
    ("commands", .arr (e.descriptor.commands.map fun (t, _) => .str t)),
    ("state", .str e.state.tag)]

/-- The plugins of a host, in registration order. -/
structure PluginRegistry where
  entries : List PluginEntry := []
  started : Bool := false
  disposed : Bool := false

namespace PluginRegistry

/-- The descriptor of a plugin. -/
def get? (r : PluginRegistry) (name : String) : Option PluginDescriptor :=
  (r.entries.find? (·.descriptor.name == name)).map (·.descriptor)

/-- The lifecycle state of a plugin. -/
def stateOf? (r : PluginRegistry) (name : String) : Option Lifecycle :=
  (r.entries.find? (·.descriptor.name == name)).map (·.state)

/-- The plugins carrying a capability tag, in registration order. -/
def byCapability (r : PluginRegistry) (tag : String) : List PluginDescriptor :=
  (r.entries.map (·.descriptor)).filter (·.hasCapability tag)

/-- How many plugins are active. -/
def activeCount (r : PluginRegistry) : Nat := r.entries.countP (·.state == .active)

/-- The listings of all plugins, in registration order. -/
def summaries (r : PluginRegistry) : List Json := r.entries.map PluginEntry.summary

/-- The first registered plugin that keeps a newcomer from taking a tag. -/
def claimant? (r : PluginRegistry) (d : PluginDescriptor) (tag : String) : Option PluginDescriptor :=
  (r.entries.map (·.descriptor)).find? fun o => o.hasCapability tag && !(o.composable && d.composable)

/-- Why a descriptor cannot be registered, if it cannot. -/
def refusal? (r : PluginRegistry) (d : PluginDescriptor) : Option RegistryError :=
  if r.disposed then some .disposed
  else if (r.get? d.name).isSome then some (.duplicatePlugin d.name)
  else d.capabilities.findSome? fun tag =>
    (r.claimant? d tag).map fun o => .duplicateCapability tag o.name

/-- Registers a descriptor at the end. -/
def register (r : PluginRegistry) (d : PluginDescriptor) : Except RegistryError PluginRegistry :=
  match r.refusal? d with
  | some e => .error e
  | none => .ok { r with entries := r.entries ++ [{ descriptor := d }] }

/-- Changes the entry of a plugin. -/
def modify (r : PluginRegistry) (name : String) (f : PluginEntry → PluginEntry) : PluginRegistry :=
  { r with entries := r.entries.map fun e => if e.descriptor.name == name then f e else e }

/-- Adds a note to a plugin's entry. -/
def note (r : PluginRegistry) (name line : String) : PluginRegistry :=
  r.modify name fun e => { e with notes := e.notes ++ [line] }

/-- Whether activation may run: the host has started and the registry is not disposed. -/
def activationRefusal? (r : PluginRegistry) : Option RegistryError :=
  if r.disposed then some .disposed
  else if !r.started then some .notStarted
  else none

/-- Closes the registry: every plugin is marked disposed and nothing more may be
registered or activated.  Deactivating the active plugins first is the host's part. -/
def dispose (r : PluginRegistry) : PluginRegistry :=
  if r.disposed then r
  else { r with disposed := true, entries := r.entries.map fun e => { e with state := .disposed } }

theorem register_names (r : PluginRegistry) (d : PluginDescriptor) (r' : PluginRegistry)
    (h : r.register d = .ok r') : r'.entries.map (·.descriptor.name) =
      r.entries.map (·.descriptor.name) ++ [d.name] := by
  unfold register at h
  split at h
  · cases h
  · cases h; simp

end PluginRegistry

end Tether
