import Tether.Host.Workers
/-!
# Host.Plugins — activating plugins, and the panels they show

Activation runs each registered plugin that is not active, in registration order.

* A **panel** reads the cached values of each of its patterns once, so that a malformed
  pattern fails its activation, and then joins the active panels.  Its snapshot is read
  from the cache whenever asked: a session change empties every panel at the moment it
  empties the cache.
* A **probe** notes what it can see (`activate`, its name, the link state, the
  provisioning state twice — once as read from the context, once from the provisioning
  handle), counts the cached values of each pattern of its script, subscribes and
  publishes as the script says, stopping at the first error, and notes how many
  subscriptions it holds.  Its requests start afterwards, as background work.

A plugin may subscribe only to patterns it declared: the pattern, normalised, must equal
one of its declared patterns, normalised.  A failed activation releases every
subscription the plugin made.

Deactivation runs in reverse registration order and releases the subscriptions of every
plugin; disposal deactivates and then closes the registry for good.
-/

namespace Tether

open Tether.Json

set_option autoImplicit false

namespace Host

/-- The cached values of a pattern written as text. -/
def cachedFor (h : Host) (pattern : String) : Except BusError (List CachedValue) :=
  match TopicPattern.parse pattern with
  | .error e => .error (.pattern e)
  | .ok p => .ok (h.fanout.cached p h.now)

/-- Subscribes a plugin to one of its declared patterns; its events go among those it has
seen. -/
def pluginSubscribe (h : Host) (d : PluginDescriptor) (pattern : String) : Except BusError Host := do
  let p ← (TopicPattern.parse pattern).mapError BusError.pattern
  let declared := d.topics.any fun t => match TopicPattern.parse t with
    | .ok q => q.raw == p.raw
    | .error _ => false
  if !declared then throw (.undeclaredTopic d.name pattern)
  let (id, h) := h.subscribeWith p (some ⟨d.name⟩) (.plugin d.name)
  pure { h with registry := h.registry.modify d.name fun e =>
    { e with subscriptions := e.subscriptions ++ [id] } }

/-- Publishes a command on behalf of a plugin. -/
def pluginPublish (h : Host) (plugin : String) (c : CommandDraft) : Except BusError Unit × Host :=
  h.dispatch { id := default, topic := c.topic, payload := c.payload, issuer := some ⟨plugin⟩ } false

/-- The subscriptions a plugin holds. -/
def subscriptionsOf (h : Host) (name : String) : List Nat :=
  ((h.registry.entries.find? (·.descriptor.name == name)).map (·.subscriptions)).getD []

/-- Runs the subscribes of a probe script in order, stopping at the first error. -/
def probeSubscribes (d : PluginDescriptor) : Host → List String → Except BusError Host
  | h, [] => .ok h
  | h, p :: rest => do probeSubscribes d (← h.pluginSubscribe d p) rest

/-- Runs the publishes of a probe script in order, stopping at the first error. -/
def probePublishes (name : String) : Host → List CommandDraft → Host × Option BusError
  | h, [] => (h, none)
  | h, c :: rest =>
    match h.pluginPublish name c with
    | (.error e, h) => (h, some e)
    | (.ok (), h) => probePublishes name h rest

/-- The note a probe makes about the cached values of one pattern. -/
def cachedNote (h : Host) (pattern : String) : String :=
  match h.cachedFor pattern with
  | .ok vs => "cached " ++ pattern ++ " " ++ toString vs.length
  | .error e => "cached " ++ pattern ++ " " ++ e.kind

/-- Activates a probe: the host after, or the error that failed it. -/
def activateProbe (h : Host) (d : PluginDescriptor) (script : ProbeScript) : Host × Option BusError :=
  let name := d.name
  let state := h.provisioning.toJson.render
  let lines := ["activate", "plugin " ++ name, "link " ++ h.link.toJson.render,
    "provisioning " ++ state, "provisioning-handle " ++ state] ++ script.cached.map h.cachedNote
  let h := lines.foldl (fun h l => { h with registry := h.registry.note name l }) h
  match probeSubscribes d h script.subscribe with
  | .error e => (h, some e)
  | .ok h =>
    match probePublishes name h script.publish with
    | (h, some e) => (h, some e)
    | (h, none) =>
      let line := "subscriptions " ++ toString (h.subscriptionsOf name).length
      let h := { h with registry := h.registry.note name line }
      ({ h with pendingRequests := h.pendingRequests ++ script.request.map (name, ·) }, none)

/-- Inserts a panel into the name-ordered list of active panels. -/
def insertPanel (name : String) (patterns : List String) :
    List (String × List String) → List (String × List String)
  | [] => [(name, patterns)]
  | (n, ps) :: rest =>
    if name < n then (name, patterns) :: (n, ps) :: rest
    else if name = n then (name, patterns) :: rest
    else (n, ps) :: insertPanel name patterns rest

/-- Activates a panel: it fails on the first pattern that does not read. -/
def activatePanel (h : Host) (name : String) (patterns : List String) : Host × Option BusError :=
  match patterns.findSome? fun p => match h.cachedFor p with
      | .error e => some e
      | .ok _ => none with
  | some e => (h, some e)
  | none => ({ h with panels := insertPanel name patterns h.panels }, none)

/-- Releases every subscription a plugin holds. -/
def releaseSubscriptions (h : Host) (name : String) : Host :=
  let h := (h.subscriptionsOf name).foldl unsubscribe h
  { h with registry := h.registry.modify name fun e => { e with subscriptions := [] } }

/-- Activates one registered plugin. -/
def activateEntry (h : Host) (d : PluginDescriptor) : Host :=
  let (h, failure) := match d.behaviour with
    | .panel patterns => h.activatePanel d.name patterns
    | .probe script => h.activateProbe d script
  match failure with
  | some _ =>
    let h := h.releaseSubscriptions d.name
    { h with registry := h.registry.modify d.name fun e => { e with state := .failed } }
  | none => { h with registry := h.registry.modify d.name fun e => { e with state := .active } }

/-- Activates every registered plugin that is not active, in order: the number active. -/
def activateAll (h : Host) : Except RegistryError (Nat × Host) :=
  match h.registry.activationRefusal? with
  | some e => .error e
  | none =>
    let names := (h.registry.entries.filter (·.state != .active)).map (·.descriptor)
    let h := names.foldl activateEntry h
    .ok (h.registry.activeCount, h)

/-- Stops an active plugin: a probe notes it, a panel leaves the active panels. -/
def stopPlugin (h : Host) (d : PluginDescriptor) : Host :=
  match d.behaviour with
  | .panel _ => { h with panels := h.panels.filter (·.1 != d.name) }
  | .probe _ => { h with registry := h.registry.note d.name "deactivate" }

/-- Deactivates every plugin in reverse registration order, releasing its subscriptions. -/
def deactivateAll (h : Host) : Host :=
  h.registry.entries.reverse.foldl (fun h e =>
    let active := h.registry.stateOf? e.descriptor.name == some .active
    let h := if active then h.stopPlugin e.descriptor else h
    let h := h.releaseSubscriptions e.descriptor.name
    if active then
      { h with registry := h.registry.modify e.descriptor.name fun e => { e with state := .inactive } }
    else h) h

/-- Deactivates and closes the registry; later calls change nothing. -/
def disposePlugins (h : Host) : Host :=
  if h.registry.disposed then h
  else
    let h := h.deactivateAll
    { h with registry := h.registry.dispose }

/-- Registers a plugin and accepts the commands it declares on the bus. -/
def registerPlugin (h : Host) (d : PluginDescriptor) : Except RegistryError Host := do
  let registry ← h.registry.register d
  pure { h with registry, rules := d.commands.foldl (fun r (t, s) => r.registerSchema t s) h.rules }

/-- Registers a plugin in a registry of its own that works on this host's bus. -/
def registerElsewhere (h : Host) (r : PluginRegistry) (d : PluginDescriptor) :
    Except RegistryError (PluginRegistry × Host) := do
  let r ← r.register d
  pure (r, { h with rules := d.commands.foldl (fun r (t, s) => r.registerSchema t s) h.rules })

/-- The names of the active panels, in order. -/
def panelNames (h : Host) : List String := h.panels.map (·.1)

/-- What an active panel shows: the cached value of every topic matching one of its
patterns, by topic. -/
def panelSnapshot (h : Host) (name : String) : Option (List (String × CachedValue)) :=
  (h.panels.lookup name).map fun patterns =>
    let values := patterns.flatMap fun p => (h.cachedFor p).toOption.getD []
    let byTopic := values.foldl (fun acc v => (v.event.topic, v) :: acc.filter (·.1 != v.event.topic)) []
    byTopic.mergeSort (fun a b => a.1 ≤ b.1)

/-- The events a plugin has seen since they were last read, and its notes. -/
def takePluginLog (h : Host) (name : String) : Option (List TelemetryEvent × List String) × Host :=
  match h.registry.entries.find? (·.descriptor.name == name) with
  | none => (none, h)
  | some e => (some (e.seen, e.notes),
      { h with registry := h.registry.modify name fun e => { e with seen := [] } })

end Host

end Tether
