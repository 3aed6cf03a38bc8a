import Mathlib
import Tether.Proofs.ReservedCommands
/-!
# Proofs.PluginLifecycle — what the plugin registry keeps over its life

A host calls its plugin registry in four ways (`RegistryCall`): it registers a descriptor,
marks itself started, activates every plugin that is not active, and deactivates or disposes
of them all.  A run of such calls starts from a new registry (`Host.PluginsFresh`).

Registration (`PluginRegistry.refusal?_eq_none_iff`) refuses a disposed registry, a name
already registered, and a tag some registered plugin carries unless both are composable; a
refused registration leaves the host alone, and an accepted one appends the plugin and
registers the schema of each command it declares, a reserved topic keeping its own
(`CommandRules.find?_registerAll`).  So every registry of a run keeps its names distinct and
shares a tag only among composable plugins (`PluginRegistry.WellFormed`).

Every bus subscription a plugin makes is listed in its entry (`Host.PluginsTracked`): a
plugin may subscribe only to a pattern that normalises like one it declared
(`Host.pluginSubscribe_eq_ok_iff`), and then its entry records the subscription.

Activating and stopping a plugin are built from steps that act for that plugin alone
(`Host.ActsOn`): they change its own entry, add subscriptions it owns, and keep every other
entry.  With distinct names this gives what a whole activation does: every plugin that was
active stays as it was, and every other one ends active, or failed with its subscriptions
cancelled (`Host.activateAll_settles`).  Deactivation leaves no plugin active and no bus
subscription owned by a plugin (`Host.deactivateAll_stops`).

Activation before the host has started is refused as not started, except in a registry
already disposed, which refuses it as disposed (`disposed_registry_refuses_as_disposed`).
The main statement is `plugin_registry_lifecycle`.
-/

namespace Tether

open Tether.Json

set_option autoImplicit false

/-! ## Registration -/

namespace PluginDescriptor

theorem hasCapability_iff (d : PluginDescriptor) (tag : String) :
    d.hasCapability tag = true ↔ tag ∈ d.capabilities := by
  simp [hasCapability]

/-- Two plugins may both carry a tag only when both are composable. -/
def Shareable (a b : PluginDescriptor) : Prop :=
  ∀ tag ∈ a.capabilities, tag ∈ b.capabilities → a.composable = true ∧ b.composable = true

/-- A plugin declares a pattern when one of its declared topics normalises to the same text. -/
def Declares (d : PluginDescriptor) (p : TopicPattern) : Prop :=
  ∃ t ∈ d.topics, ∃ q, TopicPattern.parse t = .ok q ∧ q.raw = p.raw

end PluginDescriptor

namespace PluginRegistry

/-- The names of the registered plugins, in registration order. -/
def names (r : PluginRegistry) : List String := r.entries.map (·.descriptor.name)

/-- The descriptors of the registered plugins, in registration order. -/
def descriptors (r : PluginRegistry) : List PluginDescriptor := r.entries.map (·.descriptor)

theorem names_eq (r : PluginRegistry) : r.names = r.descriptors.map (·.name) := by
  simp [names, descriptors]

/-- What every registry of a run keeps: distinct names, and a tag shared only among
composable plugins. -/
structure WellFormed (r : PluginRegistry) : Prop where
  names_nodup : r.names.Nodup
  shareable : r.descriptors.Pairwise PluginDescriptor.Shareable

variable (r : PluginRegistry) (d : PluginDescriptor)

theorem get?_isSome_iff (n : String) : (r.get? n).isSome = true ↔ n ∈ r.names := by
  simp [get?, names, List.find?_isSome]

theorem claimant?_eq_none_iff (tag : String) :
    r.claimant? d tag = none ↔
      ∀ o ∈ r.descriptors, tag ∈ o.capabilities → o.composable = true ∧ d.composable = true := by
  unfold claimant?
  rw [List.find?_eq_none]
  refine forall₂_congr fun o _ => ?_
  simp [PluginDescriptor.hasCapability_iff]

/-- A registration is refused unless the registry is open, the name is new, and every tag of
the newcomer is carried only by composable plugins while the newcomer is composable too. -/
theorem refusal?_eq_none_iff :
    r.refusal? d = none ↔ r.disposed = false ∧ d.name ∉ r.names ∧
      ∀ tag ∈ d.capabilities, ∀ o ∈ r.descriptors, tag ∈ o.capabilities →
        o.composable = true ∧ d.composable = true := by
  unfold refusal?
  by_cases hd : r.disposed = true
  · simp [hd]
  · by_cases hn : (r.get? d.name).isSome = true
    · simp [hd, hn, (get?_isSome_iff r d.name).mp hn]
    · have hn' : d.name ∉ r.names := fun h => hn ((get?_isSome_iff r d.name).mpr h)
      simp only [hd, hn, Bool.false_eq_true, if_false, List.findSome?_eq_none_iff,
        Option.map_eq_none_iff, claimant?_eq_none_iff]
      simp [hn']

theorem register_eq_ok_iff {r' : PluginRegistry} :
    r.register d = .ok r' ↔
      r.refusal? d = none ∧ r' = { r with entries := r.entries ++ [{ descriptor := d }] } := by
  unfold register
  cases r.refusal? d <;> simp [eq_comm]

theorem register_eq_error_iff {e : RegistryError} : r.register d = .error e ↔ r.refusal? d = some e := by
  unfold register
  cases r.refusal? d <;> simp

variable {r}

/-- A registry whose descriptors are those of a well-formed one is well-formed. -/
theorem WellFormed.of_descriptors {r' : PluginRegistry} (hw : r.WellFormed)
    (hd : r'.descriptors = r.descriptors) : r'.WellFormed :=
  ⟨by rw [names_eq, hd, ← names_eq]; exact hw.names_nodup, hd ▸ hw.shareable⟩

/-- An accepted registration keeps the registry well-formed. -/
theorem WellFormed.register (hw : r.WellFormed) {r' : PluginRegistry} (hr : r.register d = .ok r') :
    r'.WellFormed := by
  obtain ⟨hnone, rfl⟩ := (register_eq_ok_iff r d).mp hr
  obtain ⟨-, hname, htags⟩ := (refusal?_eq_none_iff r d).mp hnone
  constructor
  · simp only [names, List.map_append, List.map_cons, List.map_nil]
    exact List.nodup_append.mpr ⟨hw.names_nodup, List.nodup_singleton _,
      fun a ha b hb => by rw [List.mem_singleton] at hb; rintro rfl; exact hname (hb ▸ ha)⟩
  · simp only [descriptors, List.map_append, List.map_cons, List.map_nil]
    refine List.pairwise_append.mpr ⟨hw.shareable, List.pairwise_singleton _ _, ?_⟩
    -- the newcomer shares each of its tags only with composable plugins
    intro o ho x hx tag hto htd
    rw [List.mem_singleton] at hx
    subst hx
    exact htags tag htd o ho hto

theorem modify_descriptors {f : PluginEntry → PluginEntry} (hf : ∀ e, (f e).descriptor = e.descriptor)
    (n : String) : (r.modify n f).descriptors = r.descriptors := by
  simp only [descriptors, modify, List.map_map]
  refine List.map_congr_left fun e _ => ?_
  simp only [Function.comp_apply]
  split <;> simp [hf]

/-- A change to entries that keeps their descriptors and the subscriptions they list keeps
every listed subscription listed under the same name. -/
theorem listed_modify (f : PluginEntry → PluginEntry) (hf : ∀ e, (f e).descriptor = e.descriptor)
    (hs : ∀ e, ∀ id ∈ e.subscriptions, id ∈ (f e).subscriptions) (n : String)
    {e : PluginEntry} (he : e ∈ r.entries) {id : Nat} (hid : id ∈ e.subscriptions) :
    ∃ e' ∈ (r.modify n f).entries, e'.descriptor.name = e.descriptor.name ∧ id ∈ e'.subscriptions := by
  refine ⟨if e.descriptor.name == n then f e else e, List.mem_map_of_mem he, ?_, ?_⟩
  · split <;> simp [hf]
  · split
    · exact hs e _ hid
    · exact hid

/-- With distinct names, looking a plugin up by its name finds its entry. -/
theorem find?_name_of_mem (hnd : r.names.Nodup) {e : PluginEntry} (he : e ∈ r.entries) :
    r.entries.find? (·.descriptor.name == e.descriptor.name) = some e := by
  unfold names at hnd
  generalize r.entries = es at hnd he
  induction es with
  | nil => cases he
  | cons x rest ih =>
    simp only [List.map_cons, List.nodup_cons] at hnd
    rcases List.mem_cons.mp he with rfl | hr
    · simp
    · have hne : x.descriptor.name ≠ e.descriptor.name := fun heq =>
        hnd.1 (heq ▸ List.mem_map_of_mem (f := (·.descriptor.name)) hr)
      rw [List.find?_cons, beq_eq_false_iff_ne.mpr hne]
      exact ih hnd.2 hr

/-- With distinct names, an entry is known by its name. -/
theorem eq_of_name_eq (hnd : r.names.Nodup) {e e' : PluginEntry} (he : e ∈ r.entries)
    (he' : e' ∈ r.entries) (hn : e.descriptor.name = e'.descriptor.name) : e = e' := by
  have hf := find?_name_of_mem hnd he
  rw [hn, find?_name_of_mem hnd he'] at hf
  exact (Option.some.inj hf).symm

theorem mem_names_of_stateOf? {n : String} {st : Lifecycle} (hs : r.stateOf? n = some st) :
    n ∈ r.names := by
  obtain ⟨e, hf, -⟩ := Option.map_eq_some_iff.mp hs
  have hp := List.find?_some hf
  rw [beq_iff_eq] at hp
  exact hp ▸ List.mem_map_of_mem (List.mem_of_find?_eq_some hf)

theorem stateOf?_of_mem (hnd : r.names.Nodup) {e : PluginEntry} (he : e ∈ r.entries) :
    r.stateOf? e.descriptor.name = some e.state := by
  rw [stateOf?, find?_name_of_mem hnd he]
  rfl

/-- An entry of the named plugin after a change is the change applied to its entry before. -/
theorem mem_modify {f : PluginEntry → PluginEntry} {n : String} {e : PluginEntry} (he : e ∈ (r.modify n f).entries) (hn : e.descriptor.name = n) :
    ∃ e₀ ∈ r.entries, e = f e₀ := by
  obtain ⟨x, hx, rfl⟩ := List.mem_map.mp he
  by_cases hxn : x.descriptor.name = n
  · exact ⟨x, hx, by simp [hxn]⟩
  · simp [hxn] at hn

end PluginRegistry

namespace CommandRules

/-- Registering a plugin's commands gives each unreserved topic the schema it was declared
with last, and leaves the schema of every reserved or undeclared topic alone. -/
theorem find?_registerAll (r : CommandRules) (cmds : List (String × CommandSchema)) (t : String) :
    (r.registerAll cmds).schemas.find? t =
      if r.isReserved t then r.schemas.find? t else (cmds.reverse.lookup t).or (r.schemas.find? t) := by
  induction cmds generalizing r with
  | nil => simp [registerAll]
  | cons x rest ih =>
    obtain ⟨k, s⟩ := x
    have hstep : r.registerAll ((k, s) :: rest) = (r.registerSchema k s).registerAll rest := rfl
    rw [hstep, ih, isReserved_registerSchema]
    by_cases ht : r.isReserved t = true
    · simp only [ht, if_true]
      exact find?_registerSchema_of_reserved r k t s ht
    · simp only [ht, Bool.false_eq_true, if_false, List.reverse_cons, List.lookup_append,
        Option.or_assoc, SchemaRegistry.lookup_cons_ite, List.lookup_nil]
      congr 1
      -- the declared topic is not reserved at `t`, so its schema goes in
      unfold registerSchema
      by_cases hk : r.isReserved k = true
      · have hne : t ≠ k := fun h => ht (h ▸ hk)
        simp [hk, hne]
      · simp only [hk, Bool.false_eq_true, if_false, SchemaRegistry.find?_insert]
        by_cases hte : t = k <;> simp [hte]

end CommandRules

/-! ## Calls on the registry of a host -/

/-- A call a host makes on its plugin registry. -/
inductive RegistryCall where
  /-- Registers a plugin with the schemas of its commands. -/
  | register (d : PluginDescriptor)
  /-- Marks the host started, so that activation may run. -/
  | markStarted
  | activateAll
  | deactivateAll
  | dispose

namespace Host

/-- Carries out a registry call; a refused call leaves the host as it was. -/
def registryCall (h : Host) : RegistryCall → Host
  | .register d =>
    match h.registerPlugin d with
    | .ok h' => h'
    | .error _ => h
  | .markStarted => { h with registry := { h.registry with started := true } }
  | .activateAll =>
    match h.activateAll with
    | .ok (_, h') => h'
    | .error _ => h
  | .deactivateAll => h.deactivateAll
  | .dispose => h.disposePlugins

/-- Registry calls one after the other. -/
def registryRun (h : Host) (calls : List RegistryCall) : Host := calls.foldl registryCall h

/-- A host whose plugin registry is new: nothing registered, shown or started, and no bus
subscription made for a plugin. -/
structure PluginsFresh (h : Host) : Prop where
  registry : h.registry = {}
  panels : h.panels = []
  unowned : ∀ s ∈ h.fanout.subscribers, s.owner = none

/-- The registry is well-formed, and every bus subscription made for a plugin is listed in
that plugin's entry, so that stopping the plugin cancels it. -/
structure PluginsTracked (h : Host) : Prop where
  wellFormed : h.registry.WellFormed
  owned : ∀ s ∈ h.fanout.subscribers, ∀ p : PluginId, s.owner = some p →
    ∃ e ∈ h.registry.entries, e.descriptor.name = p.val ∧ s.id ∈ e.subscriptions

theorem PluginsFresh.tracked {h : Host} (hf : h.PluginsFresh) : h.PluginsTracked where
  wellFormed := by
    rw [hf.registry]
    exact ⟨List.nodup_nil, List.Pairwise.nil⟩
  owned s hs p hp := by
    rw [hf.unowned s hs] at hp
    cases hp

theorem PluginsTracked.congr {h h' : Host} (ht : h.PluginsTracked)
    (he : h'.registry.entries = h.registry.entries)
    (hs : h'.fanout.subscribers = h.fanout.subscribers) : h'.PluginsTracked where
  wellFormed := ht.wellFormed.of_descriptors (by simp [PluginRegistry.descriptors, he])
  owned s hmem p hp := by
    rw [hs] at hmem
    rw [he]
    exact ht.owned s hmem p hp

/-- With distinct names, the subscriptions listed for a plugin are those of its entry. -/
theorem subscriptionsOf_of_mem {h : Host} (hnd : h.registry.names.Nodup) {e : PluginEntry}
    (he : e ∈ h.registry.entries) : h.subscriptionsOf e.descriptor.name = e.subscriptions := by
  rw [subscriptionsOf, PluginRegistry.find?_name_of_mem hnd he]
  rfl

/-! ## Steps that act for one plugin -/

/-- What a step that activates or stops the plugins named in `ns` may do: change their
entries without touching their descriptors, add bus subscriptions they own, remove any
subscription, and keep every other entry and panel and the registry's flags.  It keeps the
registry tracked. -/
structure ActsOn (ns : List String) (h h' : Host) : Prop where
  entries : ∃ f : PluginEntry → PluginEntry, (∀ e, (f e).descriptor = e.descriptor) ∧
    h'.registry.entries = h.registry.entries.map fun e => if e.descriptor.name ∈ ns then f e else e
  started : h'.registry.started = h.registry.started
  disposed : h'.registry.disposed = h.registry.disposed
  subscribers : ∀ s ∈ h'.fanout.subscribers, s ∈ h.fanout.subscribers ∨ ∃ n ∈ ns, s.owner = some ⟨n⟩
  panels : ∀ x : String × List String, x.1 ∉ ns → (x ∈ h'.panels ↔ x ∈ h.panels)
  tracked : h.PluginsTracked → (∀ n ∈ ns, n ∈ h.registry.names) → h'.PluginsTracked

namespace ActsOn

variable {ns ns' : List String} {h h' h'' : Host}

theorem descriptors (ha : ActsOn ns h h') : h'.registry.descriptors = h.registry.descriptors := by
  obtain ⟨f, hf, he⟩ := ha.entries
  simp only [PluginRegistry.descriptors, he, List.map_map]
  refine List.map_congr_left fun e _ => ?_
  simp only [Function.comp_apply]
  split <;> simp [hf]

theorem names (ha : ActsOn ns h h') : h'.registry.names = h.registry.names := by
  rw [PluginRegistry.names_eq, ha.descriptors, ← PluginRegistry.names_eq]

/-- An entry of a plugin the step does not act for is kept. -/
theorem mem_of_not_mem (ha : ActsOn ns h h') {e : PluginEntry} (he : e ∈ h.registry.entries)
    (hn : e.descriptor.name ∉ ns) : e ∈ h'.registry.entries := by
  obtain ⟨f, -, heq⟩ := ha.entries
  rw [heq]
  exact List.mem_map.mpr ⟨e, he, if_neg hn⟩

/-- An entry after the step of a plugin it does not act for was there before. -/
theorem mem_of_not_mem' (ha : ActsOn ns h h') {e : PluginEntry} (he : e ∈ h'.registry.entries)
    (hn : e.descriptor.name ∉ ns) : e ∈ h.registry.entries := by
  obtain ⟨f, hf, heq⟩ := ha.entries
  rw [heq] at he
  obtain ⟨x, hx, rfl⟩ := List.mem_map.mp he
  by_cases hxn : x.descriptor.name ∈ ns
  · rw [if_pos hxn, hf] at hn
    exact absurd hxn hn
  · rwa [if_neg hxn]

/-- A step adds no subscription owned by a plugin it does not act for. -/
theorem unowned (ha : ActsOn ns h h') {n : String} (hn : n ∉ ns)
    (hu : ∀ s ∈ h.fanout.subscribers, s.owner ≠ some ⟨n⟩) :
    ∀ s ∈ h'.fanout.subscribers, s.owner ≠ some ⟨n⟩ := by
  intro s hs hown
  rcases ha.subscribers s hs with hs' | ⟨m, hm, hmo⟩
  · exact hu s hs' hown
  · rw [hown, Option.some.injEq, PluginId.mk.injEq] at hmo
    exact hn (hmo ▸ hm)

theorem refl (ns : List String) (h : Host) : ActsOn ns h h where
  entries := ⟨id, fun _ => rfl, by simp⟩
  started := rfl
  disposed := rfl
  subscribers s hs := .inl hs
  panels _ _ := Iff.rfl
  tracked ht _ := ht

theorem trans (ha : ActsOn ns h h') (hb : ActsOn ns' h' h'') : ActsOn (ns ++ ns') h h'' where
  entries := by
    obtain ⟨f, hf, hfe⟩ := ha.entries
    obtain ⟨g, hg, hge⟩ := hb.entries
    -- the first step's change, then the second's, on the named entries only
    refine ⟨fun e => if e.descriptor.name ∈ ns' then g (if e.descriptor.name ∈ ns then f e else e)
      else if e.descriptor.name ∈ ns then f e else e, fun e => ?_, ?_⟩
    · dsimp only
      split
      · rw [hg]
        split <;> simp [hf]
      · split <;> simp [hf]
    · rw [hge, hfe, List.map_map]
      refine List.map_congr_left fun e _ => ?_
      simp only [Function.comp_apply, List.mem_append]
      by_cases h₁ : e.descriptor.name ∈ ns <;> by_cases h₂ : e.descriptor.name ∈ ns' <;>
        simp [h₁, h₂, hf]
  started := hb.started.trans ha.started
  disposed := hb.disposed.trans ha.disposed
  subscribers s hs := by
    rcases hb.subscribers s hs with hs' | ⟨m, hm, hmo⟩
    · rcases ha.subscribers s hs' with hs'' | ⟨m, hm, hmo⟩
      · exact .inl hs''
      · exact .inr ⟨m, List.mem_append_left _ hm, hmo⟩
    · exact .inr ⟨m, List.mem_append_right _ hm, hmo⟩
  panels x hx := by
    rw [List.mem_append, not_or] at hx
    exact (hb.panels x hx.2).trans (ha.panels x hx.1)
  tracked ht hreg :=
    hb.tracked (ha.tracked ht fun n hn => hreg n (List.mem_append_left _ hn))
      fun n hn => ha.names ▸ hreg n (List.mem_append_right _ hn)

/-- A step that acts for some plugins acts for any list that names them all. -/
theorem mono (ha : ActsOn ns h h') (hsub : ns ⊆ ns') : ActsOn ns' h h' where
  entries := by
    obtain ⟨f, hf, hfe⟩ := ha.entries
    refine ⟨fun e => if e.descriptor.name ∈ ns then f e else e, fun e => ?_, ?_⟩
    · dsimp only
      split <;> simp [hf]
    · rw [hfe]
      refine List.map_congr_left fun e _ => ?_
      by_cases h₁ : e.descriptor.name ∈ ns
      · simp [h₁, hsub h₁]
      · simp [h₁]
  started := ha.started
  disposed := ha.disposed
  subscribers s hs := (ha.subscribers s hs).imp_right fun ⟨n, hn, ho⟩ => ⟨n, hsub hn, ho⟩
  panels x hx := ha.panels x fun h => hx (hsub h)
  tracked ht hreg := ha.tracked ht fun n hn => hreg n (hsub hn)

theorem trans_same (ha : ActsOn ns h h') (hb : ActsOn ns h' h'') : ActsOn ns h h'' :=
  (ha.trans hb).mono (List.append_subset.mpr ⟨List.Subset.refl _, List.Subset.refl _⟩)

/-- A fold of steps, each acting for the plugin of its item, acts for all of them. -/
theorem foldl {α : Type} (nm : α → String) {g : Host → α → Host}
    (hg : ∀ h a, ActsOn [nm a] h (g h a)) : ∀ (l : List α) (h : Host), ActsOn (l.map nm) h (l.foldl g h)
  | [], h => refl [] h
  | a :: rest, h => (hg h a).trans (foldl nm hg rest (g h a))

/-- A fold of steps that all act for one plugin acts for it. -/
theorem foldl_same {α : Type} (n : String) {g : Host → α → Host}
    (hg : ∀ h a, ActsOn [n] h (g h a)) (l : List α) (h : Host) : ActsOn [n] h (l.foldl g h) :=
  (foldl (fun _ => n) hg l h).mono fun m hm => by
    obtain ⟨_, _, rfl⟩ := List.mem_map.mp hm
    exact List.mem_singleton_self _

end ActsOn

/-! ### The steps activation and deactivation are made of -/

section Primitives

variable (h : Host)

/-- A step that leaves the registry, the subscriptions and the panels alone acts for anyone. -/
theorem actsOn_of_frame {h' : Host} (ns : List String) (hr : h'.registry = h.registry)
    (hs : h'.fanout.subscribers = h.fanout.subscribers) (hp : h'.panels = h.panels) :
    ActsOn ns h h' where
  entries := ⟨id, fun _ => rfl, by rw [hr]; simp⟩
  started := by rw [hr]
  disposed := by rw [hr]
  subscribers s hm := .inl (hs ▸ hm)
  panels x _ := by rw [hp]
  tracked ht _ := ht.congr (by rw [hr]) hs

/-- Changing a plugin's entry, keeping its descriptor and the subscriptions it lists, acts
for that plugin. -/
theorem actsOn_modify (n : String) {f : PluginEntry → PluginEntry}
    (hf : ∀ e, (f e).descriptor = e.descriptor)
    (hs : ∀ e, ∀ id ∈ e.subscriptions, id ∈ (f e).subscriptions) :
    ActsOn [n] h { h with registry := h.registry.modify n f } where
  entries := ⟨f, hf, by simp [PluginRegistry.modify]⟩
  started := rfl
  disposed := rfl
  subscribers s hm := .inl hm
  panels _ _ := Iff.rfl
  tracked ht _ := by
    refine ⟨ht.wellFormed.of_descriptors (PluginRegistry.modify_descriptors hf n), ?_⟩
    intro s hm p hp
    obtain ⟨e, he, hname, hid⟩ := ht.owned s hm p hp
    obtain ⟨e', he', hname', hid'⟩ := PluginRegistry.listed_modify f hf hs n he hid
    exact ⟨e', he', hname'.trans hname, hid'⟩

theorem actsOn_note (n line : String) : ActsOn [n] h { h with registry := h.registry.note n line } :=
  actsOn_modify h n (fun _ => rfl) fun _ _ hid => hid

theorem actsOn_state (n : String) (st : Lifecycle) :
    ActsOn [n] h { h with registry := h.registry.modify n fun e => { e with state := st } } :=
  actsOn_modify h n (fun _ => rfl) fun _ _ hid => hid

theorem actsOn_insertPanel (n : String) (ps : List String) :
    ActsOn [n] h { h with panels := insertPanel n ps h.panels } where
  entries := ⟨id, fun _ => rfl, by simp⟩
  started := rfl
  disposed := rfl
  subscribers s hm := .inl hm
  panels x hx := by
    rw [List.mem_singleton] at hx
    -- inserting a panel replaces only the panel of its own name
    generalize h.panels = l
    induction l with
    | nil => simp [insertPanel, hx, Prod.ext_iff]
    | cons y rest ih =>
      unfold insertPanel
      by_cases hlt : n < y.1
      · simp [hlt, Prod.ext_iff, hx]
      · by_cases heq : n = y.1
        · rw [if_neg hlt, if_pos heq]
          have h₁ : x ≠ (n, ps) := fun h => hx (h ▸ rfl)
          have h₂ : x ≠ y := fun h => hx (h ▸ heq.symm)
          simp [h₁, h₂]
        · simp [hlt, heq, ih]
  tracked ht _ := ht.congr rfl rfl

theorem actsOn_removePanel (n : String) :
    ActsOn [n] h { h with panels := h.panels.filter (·.1 != n) } where
  entries := ⟨id, fun _ => rfl, by simp⟩
  started := rfl
  disposed := rfl
  subscribers s hm := .inl hm
  panels x hx := by
    rw [List.mem_singleton] at hx
    simp [List.mem_filter, hx]
  tracked ht _ := ht.congr rfl rfl

end Primitives

/-! ### Subscribing and releasing -/

section Subscriptions

variable (h : Host)

theorem foldl_unsubscribe_registry (ids : List Nat) : (ids.foldl unsubscribe h).registry = h.registry := by
  induction ids generalizing h with
  | nil => rfl
  | cons id rest ih => exact ih _

theorem foldl_unsubscribe_panels (ids : List Nat) : (ids.foldl unsubscribe h).panels = h.panels := by
  induction ids generalizing h with
  | nil => rfl
  | cons id rest ih => exact ih _

theorem foldl_unsubscribe_subscribers (ids : List Nat) :
    (ids.foldl unsubscribe h).fanout.subscribers = h.fanout.subscribers.filter fun s => s.id ∉ ids := by
  induction ids generalizing h with
  | nil => simp
  | cons id rest ih =>
    rw [List.foldl_cons, ih]
    simp only [unsubscribe, Fanout.unsubscribe, List.filter_filter, List.mem_cons, not_or]
    congr 1
    funext s
    by_cases hs : s.id = id <;> simp [hs]

theorem releaseSubscriptions_subscribers (n : String) :
    (h.releaseSubscriptions n).fanout.subscribers =
      h.fanout.subscribers.filter fun s => s.id ∉ h.subscriptionsOf n :=
  foldl_unsubscribe_subscribers h _

theorem releaseSubscriptions_registry (n : String) :
    (h.releaseSubscriptions n).registry = h.registry.modify n fun e => { e with subscriptions := [] } := by
  simp [releaseSubscriptions, foldl_unsubscribe_registry]

/-- Releasing a plugin's subscriptions empties its entry's list and cancels them on the bus. -/
theorem actsOn_releaseSubscriptions (n : String) : ActsOn [n] h (h.releaseSubscriptions n) where
  entries := ⟨fun e => { e with subscriptions := [] }, fun _ => rfl, by
    simp [releaseSubscriptions_registry, PluginRegistry.modify]⟩
  started := by simp [releaseSubscriptions_registry, PluginRegistry.modify]
  disposed := by simp [releaseSubscriptions_registry, PluginRegistry.modify]
  subscribers s hm := by
    rw [releaseSubscriptions_subscribers, List.mem_filter] at hm
    exact .inl hm.1
  panels x _ := by simp [releaseSubscriptions, foldl_unsubscribe_panels]
  tracked ht _ := by
    refine ⟨ht.wellFormed.of_descriptors ?_, ?_⟩
    · rw [releaseSubscriptions_registry]
      exact PluginRegistry.modify_descriptors (by intro; rfl) n
    · intro s hm p hp
      rw [releaseSubscriptions_subscribers, List.mem_filter] at hm
      obtain ⟨hm, hnot⟩ := hm
      obtain ⟨e, he, hname, hid⟩ := ht.owned s hm p hp
      by_cases hn : e.descriptor.name = n
      · -- the plugin's own subscriptions are exactly those its entry lists, all cancelled
        rw [← hn, subscriptionsOf_of_mem ht.wellFormed.names_nodup he] at hnot
        exact absurd hid (of_decide_eq_true hnot)
      · refine ⟨e, ?_, hname, hid⟩
        rw [releaseSubscriptions_registry]
        exact List.mem_map.mpr ⟨e, he, by simp [hn]⟩

/-- Once a tracked plugin's subscriptions are released, the bus holds none it owns. -/
theorem releaseSubscriptions_unowned (ht : h.PluginsTracked) (n : String) :
    ∀ s ∈ (h.releaseSubscriptions n).fanout.subscribers, s.owner ≠ some ⟨n⟩ := by
  intro s hs hown
  rw [releaseSubscriptions_subscribers, List.mem_filter] at hs
  obtain ⟨e, he, hname, hid⟩ := ht.owned s hs.1 ⟨n⟩ hown
  have hl := subscriptionsOf_of_mem ht.wellFormed.names_nodup he
  rw [hname] at hl
  exact of_decide_eq_true hs.2 (hl ▸ hid)

/-- A plugin subscribes exactly to the patterns that read and normalise like one it
declared; the subscription is the bus's next one, and the plugin's entry lists it. -/
theorem pluginSubscribe_eq_ok_iff (d : PluginDescriptor) (pattern : String) (h' : Host) :
    h.pluginSubscribe d pattern = .ok h' ↔
      ∃ p, TopicPattern.parse pattern = .ok p ∧ d.Declares p ∧
        h' = { (h.subscribeWith p (some ⟨d.name⟩) (.plugin d.name)).2 with
          registry := h.registry.modify d.name fun e =>
            { e with subscriptions := e.subscriptions ++ [h.fanout.nextId] } } := by
  unfold pluginSubscribe
  cases hp : TopicPattern.parse pattern with
  | error e => simp [Except.mapError, bind, Except.bind]
  | ok p =>
    simp only [Except.mapError, bind, Except.bind, pure, Except.pure]
    split
    · -- no declared topic normalises like the pattern
      rename_i hnd
      refine iff_of_false (fun heq => by cases heq) ?_
      rintro ⟨q, hq, ⟨t, ht, r, hr, hraw⟩, -⟩
      cases hq
      simp only [Bool.not_eq_true', List.any_eq_false] at hnd
      have hne := hnd t ht
      rw [hr] at hne
      simp [hraw] at hne
    · rename_i hnd
      simp only [Bool.not_eq_true', Bool.not_eq_false, List.any_eq_true] at hnd
      obtain ⟨t, ht, hq⟩ := hnd
      have hdec : d.Declares p := by
        revert hq
        cases hr : TopicPattern.parse t with
        | ok q => exact fun hq => ⟨t, ht, q, hr, by simpa using hq⟩
        | error _ => exact fun hq => by cases hq
      constructor
      · intro heq
        cases heq
        exact ⟨p, rfl, hdec, rfl⟩
      · rintro ⟨q, hq, -, rfl⟩
        cases hq
        rfl

/-- A subscription adds one subscriber, the bus's next, with the owner it names. -/
theorem mem_subscribeWith_subscribers (p : TopicPattern) (o : Option PluginId) (handler : Handler)
    {s : Subscriber} (hs : s ∈ (h.subscribeWith p o handler).2.fanout.subscribers) :
    s ∈ h.fanout.subscribers ∨ s.id = h.fanout.nextId ∧ s.owner = o := by
  simp only [subscribeWith, Fanout.subscribe, List.mem_append, List.mem_singleton] at hs
  rcases hs with hs | rfl
  · exact .inl hs
  · exact .inr ⟨rfl, rfl⟩

/-- A subscription acts for its plugin: the new subscriber is owned by it, and once the
plugin is registered its entry lists it. -/
theorem actsOn_pluginSubscribe {d : PluginDescriptor} {pattern : String} {h' : Host}
    (hs : h.pluginSubscribe d pattern = .ok h') : ActsOn [d.name] h h' := by
  obtain ⟨p, -, -, rfl⟩ := (pluginSubscribe_eq_ok_iff h d pattern h').mp hs
  refine
    { entries := ⟨fun e => { e with subscriptions := e.subscriptions ++ [h.fanout.nextId] },
        fun _ => rfl, by simp [PluginRegistry.modify]⟩
      started := rfl
      disposed := rfl
      subscribers := fun s hm => ?_
      panels := fun _ _ => Iff.rfl
      tracked := fun ht hreg => ⟨ht.wellFormed.of_descriptors
        (PluginRegistry.modify_descriptors (by intro; rfl) _), fun s hm q hq => ?_⟩ }
  · rcases mem_subscribeWith_subscribers h p _ (.plugin d.name) hm with hm | ⟨-, hown⟩
    · exact .inl hm
    · exact .inr ⟨d.name, List.mem_singleton_self _, hown⟩
  · rcases mem_subscribeWith_subscribers h p _ (.plugin d.name) hm with hm | ⟨hid, hown⟩
    · obtain ⟨e, he, hname, hid⟩ := ht.owned s hm q hq
      obtain ⟨e', he', hname', hid'⟩ :=
        PluginRegistry.listed_modify (fun e => { e with subscriptions := e.subscriptions ++ [h.fanout.nextId] })
          (fun _ => rfl) (fun _ _ hid => List.mem_append_left _ hid) d.name he hid
      exact ⟨e', he', hname'.trans hname, hid'⟩
    · -- the new subscription goes to the entry of the plugin that made it
      rw [hown, Option.some.injEq] at hq
      subst hq
      obtain ⟨e, he, hname⟩ := List.mem_map.mp (hreg d.name (List.mem_singleton_self _))
      exact ⟨{ e with subscriptions := e.subscriptions ++ [h.fanout.nextId] },
        List.mem_map.mpr ⟨e, he, by simp [hname]⟩, hname, by simp [hid]⟩

end Subscriptions

/-! ### Activating one plugin -/

section Activation

variable (h : Host)

/-- Screening and sending a command only counts a refusal. -/
theorem actsOn_dispatch (ns : List String) (c : Command) (m : Bool) :
    ActsOn ns h (h.dispatch c m).2 := by
  unfold dispatch
  split
  · exact actsOn_of_frame h ns rfl rfl rfl
  · split <;> exact actsOn_of_frame h ns rfl rfl rfl

theorem actsOn_probePublishes (ns : List String) (name : String) (cs : List CommandDraft) :
    ActsOn ns h (probePublishes name h cs).1 := by
  induction cs generalizing h with
  | nil => exact ActsOn.refl ns _
  | cons c rest ih =>
    have hd : ActsOn ns h (h.pluginPublish name c).2 := actsOn_dispatch h ns _ false
    rcases hr : h.pluginPublish name c with ⟨_ | ⟨⟩, h₁⟩ <;> rw [hr] at hd <;>
      simp only [probePublishes, hr]
    · exact hd
    · exact hd.trans_same (ih h₁)

theorem actsOn_notes (n : String) (lines : List String) :
    ActsOn [n] h (lines.foldl (fun h l => { h with registry := h.registry.note n l }) h) :=
  ActsOn.foldl_same n (fun h l => actsOn_note h n l) lines h

theorem actsOn_probeSubscribes (d : PluginDescriptor) (ps : List String) {h' : Host}
    (hs : probeSubscribes d h ps = .ok h') : ActsOn [d.name] h h' := by
  induction ps generalizing h with
  | nil =>
    cases hs
    exact ActsOn.refl _ _
  | cons p rest ih =>
    simp only [probeSubscribes, bind, Except.bind] at hs
    split at hs
    · cases hs
    · rename_i h₁ hsub
      exact (actsOn_pluginSubscribe h hsub).trans_same (ih h₁ hs)

theorem actsOn_activateProbe (d : PluginDescriptor) (script : ProbeScript) :
    ActsOn [d.name] h (h.activateProbe d script).1 := by
  unfold activateProbe
  dsimp only
  split
  · exact actsOn_notes h d.name _
  · rename_i h₂ hs
    have ha₂ := (actsOn_notes h d.name _).trans_same (actsOn_probeSubscribes _ d _ hs)
    have ha₃ := actsOn_probePublishes h₂ [d.name] d.name script.publish
    split
    · rename_i h₃ e hp
      rw [hp] at ha₃
      exact ha₂.trans_same ha₃
    · rename_i h₃ hp
      rw [hp] at ha₃
      exact (ha₂.trans_same ha₃).trans_same
        ((actsOn_note h₃ d.name _).trans_same (actsOn_of_frame _ [d.name] rfl rfl rfl))

theorem actsOn_activatePanel (n : String) (ps : List String) :
    ActsOn [n] h (h.activatePanel n ps).1 := by
  unfold activatePanel
  split
  · exact ActsOn.refl _ _
  · exact actsOn_insertPanel h n ps

/-- The plugin's own part of activating it: a panel reads its patterns, a probe runs its
script.  The host after, and the error that failed it, if one did. -/
def activationWork (h : Host) (d : PluginDescriptor) : Host × Option BusError :=
  match d.behaviour with
  | .panel patterns => h.activatePanel d.name patterns
  | .probe script => h.activateProbe d script

/-- The registry's part of activating a plugin: it is marked active, or failed with its
subscriptions released. -/
def finishActivation (d : PluginDescriptor) : Host × Option BusError → Host
  | (h, some _) =>
    let h := h.releaseSubscriptions d.name
    { h with registry := h.registry.modify d.name fun e => { e with state := .failed } }
  | (h, none) => { h with registry := h.registry.modify d.name fun e => { e with state := .active } }

theorem activateEntry_eq (d : PluginDescriptor) :
    h.activateEntry d = finishActivation d (h.activationWork d) := by
  cases hb : d.behaviour with
  | panel ps =>
    simp only [activateEntry, activationWork, hb]
    rcases h.activatePanel d.name ps with ⟨h₁, _ | e⟩ <;> rfl
  | probe script =>
    simp only [activateEntry, activationWork, hb]
    rcases h.activateProbe d script with ⟨h₁, _ | e⟩ <;> rfl

theorem actsOn_activationWork (d : PluginDescriptor) : ActsOn [d.name] h (h.activationWork d).1 := by
  unfold activationWork
  split
  · exact actsOn_activatePanel h d.name _
  · exact actsOn_activateProbe h d _

theorem actsOn_finishActivation (d : PluginDescriptor) (r : Host × Option BusError) :
    ActsOn [d.name] r.1 (finishActivation d r) := by
  obtain ⟨h₁, _ | _⟩ := r
  · exact actsOn_state h₁ d.name .active
  · exact (actsOn_releaseSubscriptions h₁ d.name).trans_same (actsOn_state _ d.name .failed)

/-- Activating a plugin acts for that plugin alone. -/
theorem actsOn_activateEntry (d : PluginDescriptor) : ActsOn [d.name] h (h.activateEntry d) := by
  rw [activateEntry_eq]
  exact (actsOn_activationWork h d).trans_same (actsOn_finishActivation d _)

end Activation

/-! ### What activation and deactivation leave of each plugin -/

/-- A plugin has settled after activation: it is active, or it failed and holds nothing
on the bus. -/
def Settled (h : Host) (n : String) : Prop :=
  ∀ e ∈ h.registry.entries, e.descriptor.name = n → e.state = .active ∨
    e.state = .failed ∧ e.subscriptions = [] ∧ ∀ s ∈ h.fanout.subscribers, s.owner ≠ some ⟨n⟩

/-- A plugin has stopped: it is not active, lists no subscription and owns none on the bus. -/
def Stopped (h : Host) (n : String) : Prop :=
  (∀ e ∈ h.registry.entries, e.descriptor.name = n → e.state ≠ .active ∧ e.subscriptions = []) ∧
    ∀ s ∈ h.fanout.subscribers, s.owner ≠ some ⟨n⟩

section Settling

variable {ns : List String} {h h' : Host} {n : String}

theorem ActsOn.settled (ha : ActsOn ns h h') (hn : n ∉ ns) (hs : h.Settled n) : h'.Settled n := by
  intro e he hname
  rcases hs e (ha.mem_of_not_mem' he (hname ▸ hn)) hname with hact | ⟨hf, hsub, hu⟩
  · exact .inl hact
  · exact .inr ⟨hf, hsub, ha.unowned hn hu⟩

theorem ActsOn.stopped (ha : ActsOn ns h h') (hn : n ∉ ns) (hs : h.Stopped n) : h'.Stopped n :=
  ⟨fun e he hname => hs.1 e (ha.mem_of_not_mem' he (hname ▸ hn)) hname, ha.unowned hn hs.2⟩

/-- A fold of steps, each acting for the plugin of its item, leaves every plugin of the
list with a property that its own step gives and steps for other plugins keep, when what its
step needs holds of it at the start and steps for other plugins keep that too. -/
theorem foldl_establishes {α : Type} (nm : α → String) {g : Host → α → Host}
    (hg : ∀ h a, ActsOn [nm a] h (g h a)) (Pre : Host → α → Prop) (P : Host → String → Prop)
    (hpre : ∀ {ns h h' a}, ActsOn ns h h' → (∀ n ∈ ns, n ∈ h.registry.names) → nm a ∉ ns →
      Pre h a → Pre h' a)
    (hkeep : ∀ {ns h h' n}, ActsOn ns h h' → n ∉ ns → P h n → P h' n)
    (hstep : ∀ h a, nm a ∈ h.registry.names → Pre h a → P (g h a) (nm a)) :
    ∀ (l : List α) (h : Host), (l.map nm).Nodup → (∀ a ∈ l, nm a ∈ h.registry.names) →
      (∀ a ∈ l, Pre h a) → ∀ a ∈ l, P (l.foldl g h) (nm a)
  | [], _, _, _, _, _, ha => absurd ha List.not_mem_nil
  | a :: rest, h, hnd, hreg, hp, b, hb => by
    rw [List.map_cons, List.nodup_cons] at hnd
    have hreg₁ : ∀ c ∈ rest, nm c ∈ (g h a).registry.names := fun c hc =>
      (hg h a).names ▸ hreg c (List.mem_cons_of_mem _ hc)
    have hp₁ : ∀ c ∈ rest, Pre (g h a) c := fun c hc =>
      hpre (hg h a) (fun m hm => List.eq_of_mem_singleton hm ▸ hreg a List.mem_cons_self)
        (fun hm => hnd.1 (List.eq_of_mem_singleton hm ▸ List.mem_map_of_mem hc))
        (hp c (List.mem_cons_of_mem _ hc))
    rcases List.mem_cons.mp hb with rfl | hb
    · -- the later steps act for other plugins only
      exact hkeep (ActsOn.foldl nm hg rest (g h b)) hnd.1
        (hstep h b (hreg b List.mem_cons_self) (hp b List.mem_cons_self))
    · exact foldl_establishes nm hg Pre P hpre hkeep hstep rest (g h a) hnd.2 hreg₁ hp₁ b hb

end Settling

theorem settled_finishActivation (d : PluginDescriptor) (r : Host × Option BusError)
    (ht : r.1.PluginsTracked) : (finishActivation d r).Settled d.name := by
  obtain ⟨h₁, _ | _⟩ := r
  · intro e he hname
    obtain ⟨e₀, -, rfl⟩ := PluginRegistry.mem_modify he hname
    exact .inl rfl
  · intro e he hname
    obtain ⟨e₁, he₁, rfl⟩ := PluginRegistry.mem_modify he hname
    rw [releaseSubscriptions_registry] at he₁
    obtain ⟨e₀, -, rfl⟩ := PluginRegistry.mem_modify he₁ hname
    exact .inr ⟨rfl, rfl, releaseSubscriptions_unowned h₁ ht d.name⟩

/-- A tracked plugin settles once activated. -/
theorem settled_activateEntry (h : Host) (d : PluginDescriptor) (ht : h.PluginsTracked)
    (hreg : d.name ∈ h.registry.names) : (h.activateEntry d).Settled d.name := by
  rw [activateEntry_eq]
  exact settled_finishActivation d _
    ((actsOn_activationWork h d).tracked ht fun m hm => List.eq_of_mem_singleton hm ▸ hreg)

/-! ### Activating and deactivating every plugin -/

/-- The plugins activation works through: those that are not active, in order. -/
def inactiveDescriptors (r : PluginRegistry) : List PluginDescriptor :=
  (r.entries.filter (·.state != .active)).map (·.descriptor)

theorem inactiveDescriptors_names_sublist (r : PluginRegistry) :
    ((inactiveDescriptors r).map (·.name)).Sublist r.names := by
  simp only [inactiveDescriptors, PluginRegistry.names, List.map_map]
  exact (List.filter_sublist).map _

/-- With distinct names, no active plugin is activated again. -/
theorem name_not_mem_inactive {r : PluginRegistry} (hnd : r.names.Nodup) {e : PluginEntry}
    (he : e ∈ r.entries) (hact : e.state = .active) :
    e.descriptor.name ∉ (inactiveDescriptors r).map (·.name) := by
  intro hm
  simp only [inactiveDescriptors, List.map_map, List.mem_map, List.mem_filter] at hm
  obtain ⟨e', ⟨he', hst⟩, hname⟩ := hm
  obtain rfl := PluginRegistry.eq_of_name_eq hnd he' he hname
  simp [hact] at hst

theorem activateAll_eq_ok_iff (h : Host) {k : Nat} {h' : Host} :
    h.activateAll = .ok (k, h') ↔ h.registry.activationRefusal? = none ∧
      h' = (inactiveDescriptors h.registry).foldl activateEntry h ∧ k = h'.registry.activeCount := by
  unfold activateAll
  split
  · rename_i hr
    simp [hr]
  · rename_i hr
    simp only [hr, inactiveDescriptors, Except.ok.injEq, Prod.mk.injEq, true_and]
    constructor
    · rintro ⟨rfl, rfl⟩
      exact ⟨rfl, rfl⟩
    · rintro ⟨rfl, rfl⟩
      exact ⟨rfl, rfl⟩

theorem activateAll_eq_error_iff (h : Host) (e : RegistryError) :
    h.activateAll = .error e ↔ h.registry.activationRefusal? = some e := by
  unfold activateAll
  split <;> rename_i hr <;> simp [hr]

/-- Activation keeps every active plugin as it was and settles every other one. -/
theorem activateAll_settles {h : Host} (ht : h.PluginsTracked) :
    let h' := (inactiveDescriptors h.registry).foldl activateEntry h
    ActsOn h.registry.names h h' ∧ (∀ e ∈ h.registry.entries, e.state = .active → e ∈ h'.registry.entries) ∧
      ∀ n ∈ h.registry.names, h'.Settled n := by
  intro h'
  have hnd := ht.wellFormed.names_nodup
  have ha : ActsOn ((inactiveDescriptors h.registry).map (·.name)) h h' :=
    ActsOn.foldl (·.name) (fun h d => actsOn_activateEntry h d) _ h
  refine ⟨ha.mono (inactiveDescriptors_names_sublist _).subset,
    fun e he hact => ha.mem_of_not_mem he (name_not_mem_inactive hnd he hact), ?_⟩
  intro n hn
  obtain ⟨e, he, rfl⟩ := List.mem_map.mp hn
  by_cases hact : e.state = .active
  · -- an active plugin was settled already, and activation acts for others only
    have hs : h.Settled e.descriptor.name := fun e' he' hname =>
      .inl (PluginRegistry.eq_of_name_eq hnd he' he hname ▸ hact)
    exact ha.settled (name_not_mem_inactive hnd he hact) hs
  · have hmem : e.descriptor ∈ inactiveDescriptors h.registry :=
      List.mem_map.mpr ⟨e, List.mem_filter.mpr ⟨he, by simpa using hact⟩, rfl⟩
    exact foldl_establishes (·.name) (fun h d => actsOn_activateEntry h d)
      (fun h _ => h.PluginsTracked) Settled (fun ha hreg _ ht => ha.tracked ht hreg)
      (fun ha hn hs => ha.settled hn hs) (fun h d hreg ht => settled_activateEntry h d ht hreg)
      _ h ((inactiveDescriptors_names_sublist _).nodup hnd)
      (fun d hd => (inactiveDescriptors_names_sublist _).subset (List.mem_map_of_mem hd))
      (fun _ _ => ht) _ hmem

/-- One step of deactivation: an active plugin is stopped and marked inactive, and every
plugin's subscriptions are released. -/
def deactivateEntry (h : Host) (e : PluginEntry) : Host :=
  let active := h.registry.stateOf? e.descriptor.name == some .active
  let h := if active then h.stopPlugin e.descriptor else h
  let h := h.releaseSubscriptions e.descriptor.name
  if active then
    { h with registry := h.registry.modify e.descriptor.name fun e => { e with state := .inactive } }
  else h

theorem deactivateAll_eq (h : Host) :
    h.deactivateAll = h.registry.entries.reverse.foldl deactivateEntry h := rfl

theorem actsOn_stopPlugin (h : Host) (d : PluginDescriptor) : ActsOn [d.name] h (h.stopPlugin d) := by
  unfold stopPlugin
  split
  · exact actsOn_removePanel h d.name
  · exact actsOn_note h d.name "deactivate"

theorem actsOn_deactivateEntry (h : Host) (e : PluginEntry) :
    ActsOn [e.descriptor.name] h (h.deactivateEntry e) := by
  unfold deactivateEntry
  by_cases hact : (h.registry.stateOf? e.descriptor.name == some .active) = true
  · simp only [hact, if_true]
    exact ((actsOn_stopPlugin h e.descriptor).trans_same (actsOn_releaseSubscriptions _ _)).trans_same
      (actsOn_state _ _ .inactive)
  · simp only [hact, Bool.false_eq_true, if_false]
    exact actsOn_releaseSubscriptions h _

/-- A tracked plugin has stopped once deactivated. -/
theorem stopped_deactivateEntry (h : Host) (e : PluginEntry) (ht : h.PluginsTracked) :
    (h.deactivateEntry e).Stopped e.descriptor.name := by
  have hnd := ht.wellFormed.names_nodup
  unfold deactivateEntry
  by_cases hact : (h.registry.stateOf? e.descriptor.name == some .active) = true
  · simp only [hact, if_true]
    have hreg := PluginRegistry.mem_names_of_stateOf? (beq_iff_eq.mp hact)
    have ht₁ := (actsOn_stopPlugin h e.descriptor).tracked ht fun m hm =>
      List.eq_of_mem_singleton hm ▸ hreg
    refine ⟨fun e' he' hname => ?_, releaseSubscriptions_unowned _ ht₁ _⟩
    obtain ⟨e₁, he₁, rfl⟩ := PluginRegistry.mem_modify he' hname
    rw [releaseSubscriptions_registry] at he₁
    obtain ⟨e₀, -, rfl⟩ := PluginRegistry.mem_modify he₁ hname
    exact ⟨by simp, rfl⟩
  · simp only [hact, Bool.false_eq_true, if_false]
    refine ⟨fun e' he' hname => ?_, releaseSubscriptions_unowned _ ht _⟩
    rw [releaseSubscriptions_registry] at he'
    obtain ⟨e₀, he₀, rfl⟩ := PluginRegistry.mem_modify he' hname
    -- the plugin was not active, so its entry was not
    have hst := PluginRegistry.stateOf?_of_mem hnd he₀
    rw [show e₀.descriptor.name = e.descriptor.name from hname] at hst
    rw [hst] at hact
    exact ⟨fun hs => hact (by simpa using hs), rfl⟩

/-- Deactivation acts for every registered plugin. -/
theorem actsOn_deactivateAll (h : Host) : ActsOn h.registry.names h h.deactivateAll := by
  rw [deactivateAll_eq]
  refine (ActsOn.foldl (·.descriptor.name) (fun h e => actsOn_deactivateEntry h e) _ h).mono ?_
  intro n hn
  simpa [PluginRegistry.names] using hn

/-- Deactivation stops every registered plugin. -/
theorem stopped_deactivateAll {h : Host} (ht : h.PluginsTracked) :
    ∀ n ∈ h.registry.names, h.deactivateAll.Stopped n := by
  intro n hn
  obtain ⟨e, he, rfl⟩ := List.mem_map.mp hn
  rw [deactivateAll_eq]
  refine foldl_establishes (·.descriptor.name) (fun h e => actsOn_deactivateEntry h e)
    (fun h _ => h.PluginsTracked) Stopped (fun ha hreg _ ht => ha.tracked ht hreg)
    (fun ha hn hs => ha.stopped hn hs) (fun h e _ ht => stopped_deactivateEntry h e ht)
    _ h ?_ ?_ (fun _ _ => ht) e (List.mem_reverse.mpr he)
  · rw [List.map_reverse, List.nodup_reverse]
    exact ht.wellFormed.names_nodup
  · intro e' he'
    exact List.mem_map_of_mem (List.mem_reverse.mp he')

/-- After deactivation no bus subscription is owned by a plugin. -/
theorem deactivateAll_unowned {h : Host} (ht : h.PluginsTracked) :
    ∀ s ∈ h.deactivateAll.fanout.subscribers, s.owner = none := by
  intro s hs
  have ha := actsOn_deactivateAll h
  cases hown : s.owner with
  | none => rfl
  | some p =>
    obtain ⟨e, he, hname, -⟩ := (ha.tracked ht fun _ hn => hn).owned s hs p hown
    have hn : p.val ∈ h.registry.names := by
      rw [← ha.names, ← hname]
      exact List.mem_map_of_mem he
    exact absurd hown ((stopped_deactivateAll ht p.val hn).2 s hs)

/-- Deactivation stops every plugin: none is active, none lists a subscription, and the bus
holds none a plugin owns. -/
theorem deactivateAll_stops {h : Host} (ht : h.PluginsTracked) :
    (∀ e ∈ h.deactivateAll.registry.entries, e.state ≠ .active ∧ e.subscriptions = []) ∧
      ∀ s ∈ h.deactivateAll.fanout.subscribers, s.owner = none := by
  refine ⟨fun e he => ?_, deactivateAll_unowned ht⟩
  have hn : e.descriptor.name ∈ h.registry.names := by
    rw [← (actsOn_deactivateAll h).names]
    exact List.mem_map_of_mem he
  exact (stopped_deactivateAll ht _ hn).1 e he rfl

/-! ### Registration and disposal -/

theorem registerPlugin_eq_ok_iff (h : Host) (d : PluginDescriptor) {h' : Host} :
    h.registerPlugin d = .ok h' ↔ h.registry.refusal? d = none ∧
      h' = { h with
        registry := { h.registry with entries := h.registry.entries ++ [{ descriptor := d }] }
        rules := h.rules.registerAll d.commands } := by
  unfold registerPlugin
  cases hr : h.registry.register d with
  | error e =>
    have hs := (PluginRegistry.register_eq_error_iff _ _).mp hr
    simp [bind, Except.bind, hs]
  | ok r =>
    obtain ⟨hnone, rfl⟩ := (PluginRegistry.register_eq_ok_iff _ _).mp hr
    simp only [bind, Except.bind, pure, Except.pure, Except.ok.injEq, hnone, true_and]
    exact eq_comm

theorem registerPlugin_eq_error_iff (h : Host) (d : PluginDescriptor) (e : RegistryError) :
    h.registerPlugin d = .error e ↔ h.registry.refusal? d = some e := by
  unfold registerPlugin
  cases hr : h.registry.register d with
  | error e' =>
    rw [(PluginRegistry.register_eq_error_iff _ _).mp hr]
    simp [bind, Except.bind]
  | ok r =>
    rw [((PluginRegistry.register_eq_ok_iff _ _).mp hr).1]
    simp [bind, Except.bind, pure, Except.pure]

/-- A refused registration leaves the host as it was. -/
theorem registryCall_register_of_refused (h : Host) (d : PluginDescriptor)
    (hr : (h.registry.refusal? d).isSome) : h.registryCall (.register d) = h := by
  obtain ⟨e, he⟩ := Option.isSome_iff_exists.mp hr
  simp only [registryCall, (registerPlugin_eq_error_iff h d e).mpr he]

theorem registerPlugin_tracked {h h' : Host} (ht : h.PluginsTracked) {d : PluginDescriptor}
    (hr : h.registerPlugin d = .ok h') : h'.PluginsTracked := by
  obtain ⟨hnone, rfl⟩ := (registerPlugin_eq_ok_iff h d).mp hr
  refine ⟨ht.wellFormed.register d ((PluginRegistry.register_eq_ok_iff _ _).mpr ⟨hnone, rfl⟩),
    fun s hs p hp => ?_⟩
  obtain ⟨e, he, hname, hid⟩ := ht.owned s hs p hp
  exact ⟨e, List.mem_append_left _ he, hname, hid⟩

/-- Disposal deactivates every plugin and closes the registry; a second one changes nothing. -/
theorem disposePlugins_eq (h : Host) :
    h.disposePlugins = if h.registry.disposed then h else
      { h.deactivateAll with
        registry := { h.deactivateAll.registry with
          disposed := true
          entries := h.deactivateAll.registry.entries.map fun e => { e with state := .disposed } } } := by
  unfold disposePlugins PluginRegistry.dispose
  by_cases hd : h.registry.disposed = true
  · simp [hd]
  · have hd' : h.deactivateAll.registry.disposed = false := by
      rw [(actsOn_deactivateAll h).disposed]
      simpa using hd
    simp [hd, hd']

/-- Disposal closes the registry; the first one marks every plugin disposed and leaves the
bus no subscription a plugin owns. -/
theorem disposePlugins_stops {h : Host} (ht : h.PluginsTracked) :
    h.disposePlugins.registry.disposed = true ∧
      (h.registry.disposed = false →
        (∀ e ∈ h.disposePlugins.registry.entries, e.state = .disposed) ∧
        ∀ s ∈ h.disposePlugins.fanout.subscribers, s.owner = none) := by
  rw [disposePlugins_eq]
  by_cases hd : h.registry.disposed = true
  · simp [hd]
  · simp only [hd, Bool.false_eq_true, if_false, true_and, forall_const]
    refine ⟨fun e he => ?_, (deactivateAll_stops ht).2⟩
    obtain ⟨e₀, -, rfl⟩ := List.mem_map.mp he
    rfl

theorem disposePlugins_tracked {h : Host} (ht : h.PluginsTracked) : h.disposePlugins.PluginsTracked := by
  rw [disposePlugins_eq]
  split
  · exact ht
  · have ht' := (actsOn_deactivateAll h).tracked ht fun _ hn => hn
    refine ⟨ht'.wellFormed.of_descriptors ?_, fun s hs p hp => ?_⟩
    · simp [PluginRegistry.descriptors, Function.comp_def]
    · rw [(deactivateAll_stops ht).2 s hs] at hp
      cases hp

/-- Every registry call keeps the plugins tracked. -/
theorem registryCall_tracked {h : Host} (ht : h.PluginsTracked) :
    ∀ c, (h.registryCall c).PluginsTracked
  | .register d => by
    simp only [registryCall]
    split
    · rename_i h' hr
      exact registerPlugin_tracked ht hr
    · exact ht
  | .markStarted => ht.congr rfl rfl
  | .activateAll => by
    simp only [registryCall]
    split
    · rename_i k h' hok
      obtain ⟨-, rfl, -⟩ := (activateAll_eq_ok_iff h).mp hok
      exact (activateAll_settles ht).1.tracked ht fun _ hn => hn
    · exact ht
  | .deactivateAll => (actsOn_deactivateAll h).tracked ht fun _ hn => hn
  | .dispose => disposePlugins_tracked ht

theorem registryRun_tracked {h : Host} (ht : h.PluginsTracked) :
    ∀ calls, (h.registryRun calls).PluginsTracked
  | [] => ht
  | c :: rest => registryRun_tracked (registryCall_tracked ht c) rest

/-! ### What the calls do on a tracked host -/

/-- Activation is refused before the host has started: as disposed when the registry is,
and as not started otherwise. -/
theorem activateAll_of_not_started (h : Host) (hs : h.registry.started = false) :
    h.activateAll = .error (if h.registry.disposed then .disposed else .notStarted) := by
  rw [activateAll_eq_error_iff]
  unfold PluginRegistry.activationRefusal?
  split <;> simp [hs]

/-- An accepted activation keeps every active plugin as it was and settles every plugin. -/
theorem activateAll_ok_settles {h : Host} (ht : h.PluginsTracked) {k : Nat} {h' : Host}
    (hok : h.activateAll = .ok (k, h')) :
    (∀ e ∈ h.registry.entries, e.state = .active → e ∈ h'.registry.entries) ∧
      ∀ n ∈ h'.registry.names, h'.Settled n := by
  obtain ⟨-, rfl, -⟩ := (activateAll_eq_ok_iff h).mp hok
  obtain ⟨ha, hkeep, hset⟩ := activateAll_settles ht
  exact ⟨hkeep, fun n hn => hset n (ha.names ▸ hn)⟩

theorem pluginSubscribe_ok_iff_declares (h : Host) (d : PluginDescriptor) (pattern : String) :
    (∃ h', h.pluginSubscribe d pattern = .ok h') ↔
      ∃ p, TopicPattern.parse pattern = .ok p ∧ d.Declares p := by
  constructor
  · rintro ⟨h', hs⟩
    obtain ⟨p, hp, hd, -⟩ := (pluginSubscribe_eq_ok_iff h d pattern h').mp hs
    exact ⟨p, hp, hd⟩
  · rintro ⟨p, hp, hd⟩
    exact ⟨_, (pluginSubscribe_eq_ok_iff h d pattern _).mpr ⟨p, hp, hd, rfl⟩⟩

/-- A plugin's subscription adds one subscriber, owned by the plugin and, once the plugin
is registered, listed among its subscriptions. -/
theorem pluginSubscribe_adds_owned {h h' : Host} (hnd : h.registry.names.Nodup)
    {d : PluginDescriptor} {pattern : String} (hs : h.pluginSubscribe d pattern = .ok h') :
    ∃ s, h'.fanout.subscribers = h.fanout.subscribers ++ [s] ∧ s.owner = some ⟨d.name⟩ ∧
      (d.name ∈ h.registry.names → s.id ∈ h'.subscriptionsOf d.name) := by
  have hnd' : h'.registry.names.Nodup := (actsOn_pluginSubscribe h hs).names ▸ hnd
  obtain ⟨p, -, -, rfl⟩ := (pluginSubscribe_eq_ok_iff h d pattern h').mp hs
  refine ⟨_, rfl, rfl, fun hreg => ?_⟩
  obtain ⟨e, he, hname⟩ := List.mem_map.mp hreg
  have he' : { e with subscriptions := e.subscriptions ++ [h.fanout.nextId] } ∈
      (h.registry.modify d.name fun e => { e with subscriptions := e.subscriptions ++ [h.fanout.nextId] }).entries :=
    List.mem_map.mpr ⟨e, he, by simp [hname]⟩
  have hsubs := subscriptionsOf_of_mem hnd' he'
  simp only [hname] at hsubs
  simp [hsubs]

end Host

/-! ## Over a whole run -/

/-- What a host's plugin registry keeps over any run of registry calls from a new one.
Its names stay distinct and a tag is shared only among composable plugins.  A refused
registration has its reason and changes nothing; an accepted one appends the plugin and
registers the schemas of its commands, a reserved topic keeping its own.  Activation before
the start is refused, as disposed when the registry is disposed and as not started
otherwise; an accepted one keeps every active plugin as it was and leaves every plugin
active, or failed with nothing on the bus.  A plugin subscribes exactly to the patterns
that normalise like one it declared, adding one subscriber it owns and its entry lists.
Deactivation leaves no plugin active and no subscription owned by a plugin, and disposal
closes the registry. -/
theorem plugin_registry_lifecycle {h₀ : Host} (hf : h₀.PluginsFresh) (calls : List RegistryCall) :
    let h := h₀.registryRun calls
    (h.registry.names.Nodup ∧ h.registry.descriptors.Pairwise PluginDescriptor.Shareable) ∧
    (∀ d e, h.registerPlugin d = .error e ↔ h.registry.refusal? d = some e) ∧
    (∀ d, (h.registry.refusal? d).isSome → h.registryCall (.register d) = h) ∧
    (∀ d h', h.registerPlugin d = .ok h' →
      h'.registry.entries = h.registry.entries ++ [{ descriptor := d }] ∧ h'.fanout = h.fanout ∧
      ∀ t, h'.rules.schemas.find? t = if h.rules.isReserved t then h.rules.schemas.find? t
        else (d.commands.reverse.lookup t).or (h.rules.schemas.find? t)) ∧
    (h.registry.started = false →
      h.activateAll = .error (if h.registry.disposed then .disposed else .notStarted)) ∧
    (∀ k h', h.activateAll = .ok (k, h') →
      (∀ e ∈ h.registry.entries, e.state = .active → e ∈ h'.registry.entries) ∧
      ∀ n ∈ h'.registry.names, h'.Settled n) ∧
    (∀ d pattern, ((∃ h', h.pluginSubscribe d pattern = .ok h') ↔
        ∃ p, TopicPattern.parse pattern = .ok p ∧ d.Declares p) ∧
      ∀ h', h.pluginSubscribe d pattern = .ok h' →
        ∃ s, h'.fanout.subscribers = h.fanout.subscribers ++ [s] ∧ s.owner = some ⟨d.name⟩ ∧
          (d.name ∈ h.registry.names → s.id ∈ h'.subscriptionsOf d.name)) ∧
    ((∀ e ∈ h.deactivateAll.registry.entries, e.state ≠ .active ∧ e.subscriptions = []) ∧
      ∀ s ∈ h.deactivateAll.fanout.subscribers, s.owner = none) ∧
    (h.disposePlugins.registry.disposed = true ∧
      (h.registry.disposed = false →
        (∀ e ∈ h.disposePlugins.registry.entries, e.state = .disposed) ∧
        ∀ s ∈ h.disposePlugins.fanout.subscribers, s.owner = none)) := by
  intro h
  have ht : h.PluginsTracked := Host.registryRun_tracked hf.tracked calls
  refine ⟨⟨ht.wellFormed.names_nodup, ht.wellFormed.shareable⟩, Host.registerPlugin_eq_error_iff h,
    Host.registryCall_register_of_refused h, fun d h' hr => ?_, Host.activateAll_of_not_started h,
    fun k h' hok => Host.activateAll_ok_settles ht hok,
    fun d pattern => ⟨Host.pluginSubscribe_ok_iff_declares h d pattern,
      fun h' hs => Host.pluginSubscribe_adds_owned ht.wellFormed.names_nodup hs⟩,
    Host.deactivateAll_stops ht, Host.disposePlugins_stops ht⟩
  obtain ⟨-, rfl⟩ := (Host.registerPlugin_eq_ok_iff h d).mp hr
  exact ⟨rfl, rfl, CommandRules.find?_registerAll h.rules d.commands⟩

/-- On a host with no subscriptions, a registry disposed before the start refuses
activation as disposed, as the run theorem says. -/
theorem unstarted_disposed_registry_refused :
    ∃ h₀ : Host, h₀.PluginsFresh ∧ (h₀.registryRun [.dispose]).activateAll = .error .disposed :=
  let h₀ : Host :=
    { config := {}
      origin := default
      fanout := Fanout.new {} 1
      sessions := { store := { kind := .memory }, expiry := Span.ofMillis 0 }
      joiner := Joiner.silent
      scan := .ok [] }
  have hf : h₀.PluginsFresh := ⟨rfl, rfl, fun _ hs => by simp [h₀, Fanout.new] at hs⟩
  have hd : (h₀.registryRun [.dispose]).registry.disposed = true := rfl
  ⟨h₀, hf, ((plugin_registry_lifecycle hf [.dispose]).2.2.2.2.1 rfl).trans (by rw [if_pos hd])⟩

/-- Activation before the start is not always refused as not started: a registry disposed
first refuses it as disposed. -/
theorem disposed_registry_refuses_as_disposed :
    ∃ h₀ : Host, h₀.PluginsFresh ∧ (h₀.registryRun [.dispose]).registry.started = false ∧
      (h₀.registryRun [.dispose]).activateAll = .error .disposed :=
  ⟨{ config := {}
     origin := default
     fanout := Fanout.new {} 1
     sessions := { store := { kind := .memory }, expiry := Span.ofMillis 0 }
     joiner := Joiner.silent
     scan := .ok [] },
    ⟨rfl, rfl, fun _ hs => by simp [Fanout.new] at hs⟩, rfl, rfl⟩

end Tether
