import Tether.Proofs.LinkAgreement
/-!
# Proofs.HostKeeps — what every step of a host is made of

A host changes what it shows outside of its workers and plugins (`Host.outward`: the link
and provisioning states, the calls made to the Wi-Fi joiner, and what the bus remembers of
the host's own publications) in a few ways only.  It shows a link state (`Host.setLink`),
publishes a provisioning state (`Host.publishProvisioning`), announces an access point on
`portal/advertised`, starts the next session epoch (`Fanout.resetSession`), and calls the
joiner while connecting (`Host.noteJoiner`); a user may also publish on any topic.
Everything else — waking and running workers, screening and sending commands, plugins,
timers, the session directory — leaves that view alone.

So a relation between hosts that is reflexive and transitive, and holds across a change of
anything outside the view and across each of those few changes (`Host.Keeps`), holds
across all the background work (`Keeps.settle`), the passing of time (`Keeps.advanceTo`),
and every operation of a shell, given the user's publications and the connects it makes
from a host that holds no device (`Keeps.perform`).  A connect is made of those changes and
the joiner's calls (`Keeps.connectAll`).  A host starts with the joiner it was set up with,
the link down, provisioning unconfigured and a bus that remembers nothing (`start_outward`).
-/

namespace Tether

open Tether.Json

set_option autoImplicit false

/-- What a host shows outside of its workers and plugins: its link and provisioning states,
its joiner with the calls made to it, and what its bus remembers of the host's own
publications — the cache, the last number used on each topic, the offers refused. -/
structure Outward where
  joiner : Joiner
  link : LinkState
  provisioning : ProvisioningState
  cache : LastValueCache
  localSeq : List (String × Nat)
  duplicates : Nat
  staleEpoch : Nat

/-- The host events a user publishes through an operation. -/
def ShellOp.emits : ShellOp → List (String × Json)
  | .emit topic payload => [(topic, payload)]
  | .emitAll events => events
  | _ => []

namespace Fanout

/-- Taking a queued event changes only the queues. -/
theorem pop?_eq {f f' : Fanout} {id : Nat} {e : TelemetryEvent} (hp : f.pop? id = some (e, f')) :
    ∃ subscribers, f' = { f with subscribers } := by
  unfold pop? at hp
  split at hp
  · cases hp
  · split at hp
    · cases hp
    · simp only [Option.some.injEq, Prod.mk.injEq] at hp
      exact ⟨_, hp.2.symm⟩

end Fanout

namespace Host

/-- The outward view of a host. -/
def outward (h : Host) : Outward :=
  ⟨h.joiner, h.link, h.provisioning, h.fanout.cache, h.fanout.localSeq,
    h.fanout.counters.duplicates, h.fanout.counters.staleEpoch⟩

/-- A fold of steps that leave the outward view alone leaves it alone. -/
theorem foldl_outward {α : Type} {g : Host → α → Host}
    (hg : ∀ (h : Host) (a : α), (g h a).outward = h.outward) :
    ∀ (l : List α) (h : Host), (l.foldl g h).outward = h.outward := by
  intro l
  induction l with
  | nil => intro h; rfl
  | cons a rest ih =>
    intro h
    rw [List.foldl_cons, ih, hg]

/-! ## Steps that leave the outward view alone -/

section Frames

variable (h : Host)

@[simp] theorem wake_outward (ids : List Nat) : (h.wake ids).outward = h.outward := by
  obtain ⟨r, hr⟩ := h.wake_eq ids
  rw [hr]
  rfl

@[simp] theorem subscribeWith_outward (p : TopicPattern) (o : Option PluginId)
    (handler : Handler) : (h.subscribeWith p o handler).2.outward = h.outward := rfl

@[simp] theorem unsubscribe_outward (id : Nat) : (h.unsubscribe id).outward = h.outward := rfl

@[simp] theorem modifyWorker_outward (id : Nat) (f : Worker → Worker) :
    (h.modifyWorker id f).outward = h.outward := rfl

@[simp] theorem dispatch_outward (c : Command) (mayUseReserved : Bool) :
    (h.dispatch c mayUseReserved).2.outward = h.outward := by
  unfold dispatch
  split
  · rfl
  · split <;> rfl

@[simp] theorem request_outward (c : Command) : (h.request c).2.outward = h.outward := by
  unfold request
  split
  · rfl
  · split
    · rfl
    · split <;> rfl

@[simp] theorem runPluginRequest_outward (plugin : String) (d : CommandDraft) :
    (h.runPluginRequest plugin d).outward = h.outward := by
  unfold runPluginRequest
  exact h.request_outward _

theorem sendAll_outward (cs : List Command) : (h.sendAll cs).2.outward = h.outward := by
  induction cs generalizing h with
  | nil => rfl
  | cons c rest ih =>
    unfold sendAll
    have hd := h.dispatch_outward c true
    split
    · rename_i e h' heq
      rw [heq] at hd
      exact hd
    · rename_i h' heq
      rw [heq] at hd
      rw [ih h', hd]

@[simp] theorem carryOut_outward (e : Effect) : (h.carryOut e).outward = h.outward := by
  cases e with
  | issue topic payload => rfl
  | startJoinTimer => rfl
  | cancelJoinTimer => rfl
  | adoptAddress ip =>
    simp only [carryOut, adoptAddress]
    split <;> rfl

@[simp] theorem drainChannel_outward (id : Nat) : (h.drainChannel id).2.outward = h.outward := by
  unfold drainChannel
  split <;> rfl

@[simp] theorem takeJournal_outward (id : Nat) : (h.takeJournal id).2.outward = h.outward := by
  unfold takeJournal
  split <;> rfl

@[simp] theorem takePluginLog_outward (name : String) :
    (h.takePluginLog name).2.outward = h.outward := by
  unfold takePluginLog
  split <;> rfl

theorem subscribe_outward {pattern : String} {handler : Handler} {x : Nat × String} {h' : Host}
    (hs : h.subscribe pattern handler = .ok (x, h')) : h'.outward = h.outward := by
  unfold subscribe at hs
  split at hs
  · cases hs
  · simp only [Except.ok.injEq, Prod.mk.injEq] at hs
    obtain ⟨-, rfl⟩ := hs
    rfl

theorem registerElsewhere_outward {r r' : PluginRegistry} {d : PluginDescriptor} {h' : Host}
    (hr : h.registerElsewhere r d = .ok (r', h')) : h'.outward = h.outward := by
  unfold registerElsewhere at hr
  cases hreg : r.register d with
  | error e =>
    rw [hreg] at hr
    cases hr
  | ok r₁ =>
    rw [hreg] at hr
    simp only [bind, Except.bind, pure, Except.pure, Except.ok.injEq, Prod.mk.injEq] at hr
    obtain ⟨-, rfl⟩ := hr
    rfl

@[simp] theorem releaseSubscriptions_outward (name : String) :
    (h.releaseSubscriptions name).outward = h.outward := by
  unfold releaseSubscriptions
  rw [← foldl_outward (fun h id => h.unsubscribe_outward id) (h.subscriptionsOf name) h]
  rfl

@[simp] theorem stopPlugin_outward (d : PluginDescriptor) :
    (h.stopPlugin d).outward = h.outward := by
  unfold stopPlugin
  split <;> rfl

theorem deactivateAll_outward : h.deactivateAll.outward = h.outward := by
  unfold deactivateAll
  refine foldl_outward (fun h e => ?_) _ h
  dsimp only
  by_cases ha : (h.registry.stateOf? e.descriptor.name == some .active) = true
  · simp only [ha, if_true]
    exact (releaseSubscriptions_outward _ _).trans (stopPlugin_outward h _)
  · simp only [ha, if_false, Bool.false_eq_true]
    exact releaseSubscriptions_outward h _

theorem disposePlugins_outward : h.disposePlugins.outward = h.outward := by
  unfold disposePlugins
  split
  · rfl
  · exact h.deactivateAll_outward

theorem stopProvisioning_outward : h.stopProvisioning.outward = h.outward := by
  unfold stopProvisioning
  exact foldl_outward (fun h id => h.unsubscribe_outward id) _ { h with joinTimer := none }

end Frames

/-! ## Starting a host -/

section Start

variable (h : Host)

theorem pluginSubscribe_outward {d : PluginDescriptor} {pattern : String} {h' : Host}
    (hs : h.pluginSubscribe d pattern = .ok h') : h'.outward = h.outward := by
  unfold pluginSubscribe at hs
  cases hp : TopicPattern.parse pattern with
  | error e =>
    rw [hp] at hs
    cases hs
  | ok p =>
    rw [hp] at hs
    simp only [Except.mapError, bind, Except.bind] at hs
    split at hs
    · cases hs
    · simp only [pure, Except.pure, Except.ok.injEq] at hs
      subst hs
      rfl

theorem probeSubscribes_outward (d : PluginDescriptor) (ps : List String) {h' : Host}
    (hs : probeSubscribes d h ps = .ok h') : h'.outward = h.outward := by
  induction ps generalizing h with
  | nil =>
    simp only [probeSubscribes, Except.ok.injEq] at hs
    rw [hs]
  | cons p rest ih =>
    simp only [probeSubscribes, bind, Except.bind] at hs
    split at hs
    · cases hs
    · rename_i h₁ heq
      rw [ih h₁ hs, h.pluginSubscribe_outward heq]

theorem probePublishes_outward (name : String) (cs : List CommandDraft) :
    (probePublishes name h cs).1.outward = h.outward := by
  induction cs generalizing h with
  | nil => rfl
  | cons c rest ih =>
    have hd := h.dispatch_outward
      { id := default, topic := c.topic, payload := c.payload, issuer := some ⟨name⟩ } false
    unfold probePublishes pluginPublish
    split
    · rename_i e h₁ heq
      rw [heq] at hd
      exact hd
    · rename_i h₁ heq
      rw [heq] at hd
      rw [ih h₁, hd]

theorem activateProbe_outward (d : PluginDescriptor) (script : ProbeScript) :
    (h.activateProbe d script).1.outward = h.outward := by
  unfold activateProbe
  -- the notes go to the registry only
  have hnotes : ∀ (ls : List String) (h : Host),
      (ls.foldl (fun h l => { h with registry := h.registry.note d.name l }) h).outward =
        h.outward :=
    foldl_outward fun _ _ => rfl
  dsimp only
  split
  · exact hnotes _ _
  · rename_i h₁ heq
    have hs := probeSubscribes_outward _ d _ heq
    have hp := h₁.probePublishes_outward d.name script.publish
    split
    · rename_i h₂ e heq₂
      rw [heq₂] at hp
      rw [hp, hs, hnotes]
    · rename_i h₂ heq₂
      rw [heq₂] at hp
      change h₂.outward = _
      rw [hp, hs, hnotes]

@[simp] theorem activatePanel_outward (name : String) (patterns : List String) :
    (h.activatePanel name patterns).1.outward = h.outward := by
  unfold activatePanel
  split <;> rfl

theorem activateEntry_outward (d : PluginDescriptor) :
    (h.activateEntry d).outward = h.outward := by
  unfold activateEntry
  split
  rename_i h₁ failure heq
  -- the plugin's own activation, panel or probe
  have hact : h₁.outward = h.outward := by
    split at heq
    · rename_i patterns _
      have hp := h.activatePanel_outward d.name patterns
      rw [heq] at hp
      exact hp
    · rename_i script _
      have hp := h.activateProbe_outward d script
      rw [heq] at hp
      exact hp
  split
  · exact (releaseSubscriptions_outward h₁ _).trans hact
  · exact hact

theorem activateAll_outward {n : Nat} {h' : Host} (ha : h.activateAll = .ok (n, h')) :
    h'.outward = h.outward := by
  unfold activateAll at ha
  split at ha
  · cases ha
  · simp only [Except.ok.injEq, Prod.mk.injEq] at ha
    obtain ⟨-, rfl⟩ := ha
    exact foldl_outward (fun h d => h.activateEntry_outward d) _ h

theorem startProvisioning_outward : h.startProvisioning.outward = h.outward := by
  unfold startProvisioning
  dsimp only
  refine foldl_outward (fun h t => ?_) _ _
  split <;> rfl

theorem foldlM_registerPlugin_outward (plugins : List PluginDescriptor) {h' : Host}
    (hr : plugins.foldlM (fun h d => (h.registerPlugin d).mapError StartError.registry) h =
      .ok h') : h'.outward = h.outward := by
  induction plugins generalizing h with
  | nil =>
    simp only [List.foldlM_nil, pure, Except.pure, Except.ok.injEq] at hr
    rw [hr]
  | cons d rest ih =>
    rw [List.foldlM_cons] at hr
    cases hreg : h.registerPlugin d with
    | error e => simp [hreg, Except.mapError, bind, Except.bind] at hr
    | ok h₁ =>
      simp only [hreg, Except.mapError, bind, Except.bind] at hr
      rw [ih h₁ hr]
      unfold registerPlugin at hreg
      cases hr₁ : h.registry.register d with
      | error e => simp [hr₁, bind, Except.bind] at hreg
      | ok r =>
        simp only [hr₁, bind, Except.bind, pure, Except.pure, Except.ok.injEq] at hreg
        subst hreg
        rfl

end Start

/-- The auto-stale rules of the settings leave the cache empty, in its first epoch. -/
theorem cacheOf_empty {c : HostConfig} {cache : LastValueCache} (hc : cacheOf c = .ok cache) :
    cache.entries = [] ∧ cache.epoch = 0 := by
  unfold cacheOf at hc
  have hinit : ({} : LastValueCache).entries = [] ∧ ({} : LastValueCache).epoch = 0 := ⟨rfl, rfl⟩
  generalize ({} : LastValueCache) = c₀ at hc hinit
  generalize c.session.autostale = rules at hc
  -- each auto-stale rule only adds to the cache's rules
  induction rules generalizing c₀ with
  | nil =>
    simp only [List.foldlM_nil, pure, Except.pure, Except.ok.injEq] at hc
    exact hc ▸ hinit
  | cons r rest ih =>
    rw [List.foldlM_cons] at hc
    cases hq : TopicPattern.parse r.pattern with
    | error e => simp [hq, bind, Except.bind] at hc
    | ok p =>
      simp only [hq, bind, Except.bind] at hc
      exact ih (c₀.withAutostale p (Span.ofMillis r.afterMs)) hinit hc

/-- A host starts with its joiner as set up, the link down, provisioning unconfigured, and a
bus that remembers nothing. -/
theorem start_outward {setup : HostSetup} {h : Host} (hs : Host.start setup = .ok h) :
    ∃ cache : LastValueCache, cache.entries = [] ∧ cache.epoch = 0 ∧
      h.outward = ⟨setup.joiner, .disconnected, .unconfigured, cache, [], 0, 0⟩ := by
  unfold start at hs
  cases hc : cacheOf setup.config with
  | error e => simp [hc, bind, Except.bind] at hs
  | ok cache =>
    simp only [hc, bind, Except.bind] at hs
    obtain ⟨hentries, hepoch⟩ := cacheOf_empty hc
    refine ⟨cache, hentries, hepoch, ?_⟩
    split at hs
    · cases hs
    · rename_i h₁ hreg
      have hr := foldlM_registerPlugin_outward _ setup.plugins hreg
      split at hs
      · cases hs
      · rename_i x ha
        cases hact : Host.activateAll { h₁ with registry := { h₁.registry with started := true } } with
        | error e => simp [hact, Except.mapError] at ha
        | ok y =>
          simp only [hact, Except.mapError, Except.ok.injEq] at ha
          subst ha
          simp only [pure, Except.pure, Except.ok.injEq] at hs
          subst hs
          exact (activateAll_outward _ hact).trans (hr.trans (startProvisioning_outward _))

/-! ## Relations every step keeps -/

/-- A relation between hosts that holds across every change a host makes by itself: it is
reflexive and transitive, holds when the outward view stays as it was, and across showing a
link state, publishing a provisioning state, announcing an access point and starting the
next session epoch. -/
structure Keeps (R : Host → Host → Prop) : Prop where
  refl : ∀ h, R h h
  trans : ∀ {h₁ h₂ h₃ : Host}, R h₁ h₂ → R h₂ h₃ → R h₁ h₃
  outward : ∀ {h h' : Host}, h'.outward = h.outward → R h h'
  setLink : ∀ (h : Host) (s : LinkState), R h (h.setLink s)
  publishProvisioning : ∀ (h : Host) (s : ProvisioningState), R h (h.publishProvisioning s)
  advertise : ∀ (h : Host) (payload : Json), R h (h.emit portalAdvertisedTopic payload)
  resetSession : ∀ h : Host, R h { h with fanout := h.fanout.resetSession }

namespace Keeps

variable {R : Host → Host → Prop} (hk : Keeps R)
include hk

omit hk in
/-- A host that comes out of a step as the second half of a pair. -/
theorem of_pair {h h' : Host} {α : Type} {x : α × Host} {a : α} (hx : R h x.2)
    (heq : x = (a, h')) : R h h' := by
  rw [heq] at hx
  exact hx

/-- A step after a change of nothing outward. -/
theorem after {h h' h'' : Host} (hr : R h' h'') (hv : h'.outward = h.outward) : R h h'' :=
  hk.trans (hk.outward hv) hr

omit hk in
/-- A relation that holds wherever a kept one does, and composes, is kept too. -/
theorem mono {S : Host → Host → Prop} (hle : ∀ {h h' : Host}, R h h' → S h h')
    (htrans : ∀ {h₁ h₂ h₃ : Host}, S h₁ h₂ → S h₂ h₃ → S h₁ h₃) (hk : Keeps R) : Keeps S where
  refl h := hle (hk.refl h)
  trans := htrans
  outward hv := hle (hk.outward hv)
  setLink h s := hle (hk.setLink h s)
  publishProvisioning h s := hle (hk.publishProvisioning h s)
  advertise h payload := hle (hk.advertise h payload)
  resetSession h := hle (hk.resetSession h)

/-- A fold of steps each related to the host before is related to the host it starts from. -/
theorem foldl {α : Type} {g : Host → α → Host} :
    ∀ (l : List α), (∀ (h : Host), ∀ a ∈ l, R h (g h a)) → ∀ h : Host, R h (l.foldl g h) := by
  intro l
  induction l with
  | nil => intro _ h; exact hk.refl h
  | cons a rest ih =>
    intro hg h
    rw [List.foldl_cons]
    exact hk.trans (hg h a (List.mem_cons_self ..))
      (ih (fun h b hb => hg h b (List.mem_cons_of_mem a hb)) _)

/-! ### The provisioning driver -/

theorem reseed (h : Host) (e : Option Endpoint) : R h (h.reseed e) :=
  hk.after (hk.publishProvisioning _ _) rfl

theorem applyInput (h : Host) (i : ProvisioningInput) : R h (h.applyInput i).2 := by
  unfold Host.applyInput
  split
  · exact hk.refl h
  · rename_i next effects _
    have hs := h.sendAll_outward (effects.filterMap issued)
    split
    · rename_i e h' heq
      rw [heq] at hs
      exact hk.outward hs
    · rename_i h' heq
      rw [heq] at hs
      -- the commands go out and the effects are carried out; then the state is published
      have hc := foldl_outward (fun h e => h.carryOut_outward e) effects h'
      exact hk.trans (hk.outward (hc.trans hs)) (hk.publishProvisioning _ _)

theorem onTelemetry (h : Host) (e : TelemetryEvent) : R h (h.onTelemetry e) := by
  unfold Host.onTelemetry
  split
  · split
    · exact hk.applyInput h _
    · exact hk.refl h
  · split
    · exact hk.applyInput h _
    · split
      · split
        · -- the driver publishes its state again, as it stands
          exact hk.publishProvisioning h h.provisioning
        · exact hk.refl h
      · exact hk.refl h

/-! ### The workers -/

theorem handle (h : Host) (w : Worker) (e : TelemetryEvent) : R h (h.handle w e).1 := by
  unfold Host.handle
  split
  · exact hk.onTelemetry h e
  · split
    · exact hk.outward rfl
    · exact hk.outward rfl
  · exact hk.outward rfl
  · split
    · exact hk.outward rfl
    · exact hk.outward rfl

theorem runWorker (h : Host) (id fuel : Nat) : R h (h.runWorker id fuel) := by
  induction fuel generalizing h with
  | zero => exact hk.refl h
  | succ fuel ih =>
    unfold Host.runWorker
    split
    · exact hk.refl h
    · rename_i w _
      split
      · exact hk.refl h
      · split
        · exact hk.refl h
        · rename_i e fanout hpop
          -- the worker takes an event off its queue, which changes only the queues
          have htake : R h { h with fanout } := by
            obtain ⟨subscribers, rfl⟩ := Fanout.pop?_eq hpop
            exact hk.outward rfl
          have hh := hk.handle { h with fanout } w e
          split
          · rename_i h' heq
            rw [heq] at hh
            exact hk.trans htake hh
          · rename_i h' heq
            rw [heq] at hh
            exact hk.trans htake (hk.trans hh (ih h'))

theorem runReady (h : Host) (fuel : Nat) : R h (h.runReady fuel) := by
  induction fuel generalizing h with
  | zero => exact hk.refl h
  | succ fuel ih =>
    unfold Host.runReady
    split
    · exact hk.refl h
    · rename_i id rest _
      dsimp only
      exact hk.after (hk.trans (hk.runWorker _ id _) (ih _)) rfl

/-- The background work keeps every relation a host keeps. -/
theorem settle (h : Host) : R h h.settle := by
  unfold Host.settle
  dsimp only
  -- the requests plugins started change nothing outward; the workers run after them
  refine hk.after (hk.runReady _ _) (foldl_outward (fun h x => ?_) _ _)
  obtain ⟨p, d⟩ := x
  exact h.runPluginRequest_outward p d

/-! ### Time -/

theorem loseActive (h : Host) : R h h.loseActive :=
  hk.trans (hk.resetSession h) (hk.setLink _ _)

theorem housekeep (h : Host) : R h h.housekeep := by
  unfold Host.housekeep
  dsimp only
  split
  · exact hk.after (hk.trans (hk.loseActive _) (hk.reseed _ _)) rfl
  · exact hk.outward rfl

theorem fireDue (h : Host) : R h h.fireDue := by
  unfold Host.fireDue
  split
  · exact hk.after (hk.applyInput _ _) rfl
  · split
    · exact hk.after (hk.housekeep _) rfl
    · exact hk.refl h

theorem advanceWithin (h : Host) (t fuel : Nat) : R h (h.advanceWithin t fuel) := by
  induction fuel generalizing h with
  | zero => exact hk.outward rfl
  | succ fuel ih =>
    unfold Host.advanceWithin
    split
    · split
      · -- a timer falls due: it fires, the background work runs, and time goes on
        exact hk.after (hk.trans (hk.fireDue _) (hk.trans (hk.settle _) (ih _))) rfl
      · exact hk.outward rfl
    · exact hk.outward rfl

theorem advanceTo (h : Host) (t : Nat) : R h (h.advanceTo t) :=
  hk.advanceWithin h t _

theorem waitWithin (h : Host) (goal : Host → Bool) (t fuel : Nat) :
    R h (h.waitWithin goal t fuel).2 := by
  induction fuel generalizing h with
  | zero => exact hk.refl h
  | succ fuel ih =>
    unfold Host.waitWithin
    split
    · exact hk.refl h
    · split
      · split
        · exact hk.after (hk.trans (hk.fireDue _) (hk.trans (hk.settle _) (ih _))) rfl
        · exact hk.outward rfl
      · exact hk.outward rfl

/-! ### Letting the link go -/

theorem closeLink (h : Host) : R h h.closeLink := by
  simp only [Host.closeLink]
  -- the next epoch starts with the active session closed; the link is then shown
  split
  · exact hk.trans (hk.resetSession h) (hk.after (hk.setLink _ _) rfl)
  · exact hk.trans (hk.resetSession h) (hk.outward rfl)

theorem disconnect (h : Host) : R h h.disconnect :=
  hk.trans (hk.closeLink h) (hk.reseed _ _)

theorem forgetDevice (h : Host) : R h h.forgetDevice := by
  unfold Host.forgetDevice
  dsimp only
  refine hk.trans (hk.closeLink h) (hk.trans ?_ (hk.reseed _ _))
  split
  · exact hk.outward rfl
  · exact hk.refl _

theorem shutdown (h : Host) : R h h.shutdown :=
  hk.after (hk.trans (hk.closeLink _) (hk.outward rfl))
    ((stopProvisioning_outward _).trans (disposePlugins_outward h))

/-! ### Probing for portals -/

theorem probePortal (h : Host) : R h h.probePortal.2 := by
  unfold Host.probePortal
  split
  · exact hk.refl h
  · -- each access point found is registered and announced
    refine foldl_snd (R h) (fun p ap hp => ?_) _ ([], h) (hk.refl h)
    exact hk.trans hp (hk.after (hk.advertise _ _) rfl)

/-! ### Connecting

A connect is made of the changes above and the calls to the Wi-Fi joiner; a relation that
holds across those calls too holds across every connect. -/

section Connecting

variable (hnote : ∀ (h : Host) (call : String), R h (h.noteJoiner call))
include hnote

theorem openChannel (h : Host) (a : Attempt) (portal : Option String) :
    R h (h.openChannel a portal).1 := by
  unfold Host.openChannel
  dsimp only
  refine hk.trans (hk.setLink h .connecting) (hk.trans ?_ (hk.setLink _ .disconnected))
  split
  · exact hnote _ _
  · exact hk.refl _

theorem beginHolding (h : Host) (a : Attempt) : R h (h.beginHolding a).1 := by
  unfold Host.beginHolding
  split
  · exact hk.refl h
  · -- the current session ends and the next epoch starts before anything else
    have hreset : R h { h with sessions := h.sessions.deactivate, fanout := h.fanout.resetSession } :=
      hk.trans (hk.resetSession h) (hk.outward rfl)
    refine hk.trans hreset ?_
    dsimp only
    split
    · exact hk.openChannel hnote _ _ _
    · -- a portal endpoint: the link shows joining and the joiner is called, with the
      -- passphrase when there is one; the join fails, waits, or is done and the channel opened
      split <;> split
      all_goals first
        | exact hk.trans (hk.setLink _ .joiningPortal) (hk.trans (hnote _ _)
            (hk.trans (hnote _ _) (hk.setLink _ .disconnected)))
        | split
          · exact hk.trans (hk.setLink _ .joiningPortal) (hnote _ _)
          · exact hk.trans (hk.setLink _ .joiningPortal) (hk.trans (hnote _ _)
              (hk.openChannel hnote _ _ _))

theorem stepAttempt (h : Host) (lock : LinkLock) (i : Nat) (a : Attempt) :
    R h (h.stepAttempt lock i a).1 := by
  obtain ⟨endpoint, token, stage⟩ := a
  cases stage with
  | fresh =>
    -- one more connect is begun; the attempt takes the link, or waits for it
    unfold Host.stepAttempt
    dsimp only
    split
    · exact hk.after (hk.beginHolding hnote _ _) rfl
    · exact hk.outward rfl
  | waiting =>
    unfold Host.stepAttempt
    dsimp only
    split
    · exact hk.beginHolding hnote _ _
    · exact hk.refl h
  | joining ssid deadline =>
    unfold Host.stepAttempt
    dsimp only
    split
    · exact hk.trans (hnote _ _) (hk.setLink _ .disconnected)
    · split
      · exact hk.openChannel hnote h ⟨endpoint, token, .joining ssid deadline⟩ (some ssid)
      · exact hk.refl h
  | finished r => exact hk.refl h

theorem visitAttempt (h : Host) (lock : LinkLock) (i : Nat) (a : Attempt) :
    R h (h.visitAttempt lock i a).1 := by
  unfold Host.visitAttempt
  split
  · exact hk.refl h
  · dsimp only
    refine hk.trans (hk.stepAttempt hnote h lock i a) ?_
    split
    · unfold Host.afterAttempt
      split
      · exact hk.refl _
      · exact hk.reseed _ _
      · exact hk.refl _
    · exact hk.refl _

theorem stepAll (h : Host) (lock : LinkLock) (i : Nat) (as : List Attempt) :
    R h (h.stepAll lock i as).1 := by
  induction as generalizing h lock i with
  | nil => exact hk.refl h
  | cons a rest ih =>
    unfold Host.stepAll
    dsimp only
    exact hk.trans (hk.visitAttempt hnote h lock i a) (ih _ _ _)

theorem runAttempts (h : Host) (lock : LinkLock) (as : List Attempt) (fuel : Nat) :
    R h (h.runAttempts lock as fuel).1 := by
  induction fuel generalizing h lock as with
  | zero => exact hk.refl h
  | succ fuel ih =>
    unfold Host.runAttempts
    dsimp only
    refine hk.trans (hk.stepAll hnote h lock 0 as) ?_
    split
    · exact hk.refl _
    · -- the background work runs, and time passes to the next end of a join if need be
      refine hk.trans (hk.settle _) ?_
      split
      · exact ih _ _ _
      · split
        · exact hk.trans (hk.advanceTo _ _) (ih _ _ _)
        · exact hk.refl _

theorem connectAll (h : Host) (endpoints : List Endpoint) : R h (h.connectAll endpoints).2 := by
  unfold Host.connectAll
  exact hk.runAttempts hnote h {} _ _

end Connecting

/-! ### The operations of a shell -/

section Operations

-- A shell only ever connects from a host that holds no device (`shellRun_idle`).
variable (hconnect : ∀ h : Host, h.Idle → ∀ endpoints : List Endpoint, R h (h.connectAll endpoints).2)
include hconnect

variable {h : Host} (hi : h.Idle)
include hi

omit hk in
theorem connect (e : Endpoint) : R h (h.connect e).2 := by
  have hc := hconnect h hi [e]
  unfold Host.connect
  split
  · rename_i heq
    rw [heq] at hc
    exact hc
  · rename_i heq
    rw [heq] at hc
    exact hc

theorem reconnectLast : R h h.reconnectLast.2 := by
  unfold Host.reconnectLast
  split
  · exact hk.refl h
  · exact connect hconnect hi _

theorem serveRoute (req : HttpRequest) (route : Route) : R h (h.serveRoute req route).2 := by
  cases route with
  | commands =>
    simp only [Host.serveRoute]
    split
    · exact hk.refl h
    · split
      · -- a request waits for its reply
        split <;> exact of_pair (hk.outward (h.request_outward _)) ‹_›
      · split <;> exact of_pair (hk.outward (h.dispatch_outward _ _)) ‹_›
  | connect =>
    simp only [Host.serveRoute]
    split
    · exact hk.refl h
    · split <;> exact of_pair (connect hconnect hi _) ‹_›
  | disconnect => exact hk.disconnect h
  | probe =>
    simp only [Host.serveRoute]
    split <;> exact of_pair (hk.probePortal h) ‹_›
  | scan => exact (accepted_snd _).symm ▸ hk.applyInput h _
  | credentials =>
    simp only [Host.serveRoute]
    split
    · exact hk.refl h
    · exact (accepted_snd _).symm ▸ hk.applyInput h _
  | retry => exact (accepted_snd _).symm ▸ hk.applyInput h _
  | reset => exact (accepted_snd _).symm ▸ hk.applyInput h _
  | sessions => exact hk.refl h
  | state => exact hk.refl h
  | diagnostics => exact hk.refl h
  | plugins => exact hk.refl h
  | panel name =>
    simp only [Host.serveRoute]
    split <;> exact hk.refl h
  | telemetry pattern =>
    simp only [Host.serveRoute]
    split <;> exact hk.refl h
  | undecodable param => exact hk.refl h

theorem serve (req : HttpRequest) : R h (h.serve req).2 := by
  unfold Host.serve
  split
  · exact hk.refl h
  · rename_i route _
    have hr := hk.serveRoute hconnect hi req route
    split
    · split
      · exact hr
      · split
        · exact hr
        · exact hk.refl h
    · split
      · exact hr
      · exact hk.refl h

variable {op : ShellOp}

/-- Every operation of a shell keeps a relation that the host's own changes, the user's
publications in it and every connect keep. -/
theorem perform (hemit : ∀ h : Host, ∀ e ∈ op.emits, R h (h.emit e.1 e.2)) :
    R h (h.perform op) := by
  cases op with
  | emit topic payload => exact hemit h (topic, payload) (List.mem_singleton_self _)
  | emitAll events =>
    unfold Host.perform Host.emitAll
    refine hk.foldl events (fun h e he => ?_) h
    obtain ⟨t, p⟩ := e
    exact hemit h (t, p) he
  | publish topic payload => exact hk.outward (h.dispatch_outward _ _)
  | ask topic payload => exact hk.outward (h.request_outward _)
  | registerSchema topic schema => exact hk.outward rfl
  | subscribe pattern handler =>
    simp only [Host.perform]
    split
    · rename_i heq
      exact hk.outward (h.subscribe_outward heq)
    · exact hk.refl h
  | unsubscribe id => exact hk.outward (h.unsubscribe_outward id)
  | drainChannel id => exact hk.outward (h.drainChannel_outward id)
  | takeJournal id => exact hk.outward (h.takeJournal_outward id)
  | takePluginLog name => exact hk.outward (h.takePluginLog_outward name)
  | registerElsewhere registry plugin =>
    simp only [Host.perform]
    split
    · rename_i heq
      exact hk.outward (h.registerElsewhere_outward heq)
    · exact hk.refl h
  | probePortal => exact hk.probePortal h
  | requestScan => exact hk.applyInput h _
  | submitCredentials ssid password => exact hk.applyInput h _
  | retryProvisioning => exact hk.applyInput h _
  | factoryReset => exact hk.applyInput h _
  | connect endpoint => exact connect hconnect hi endpoint
  | connectAll endpoints => exact hconnect h hi endpoints
  | reconnectLast => exact hk.reconnectLast hconnect hi
  | disconnect => exact hk.disconnect h
  | forgetDevice => exact hk.forgetDevice h
  | shutdown => exact hk.shutdown h
  | waitFor goal ms => exact hk.waitWithin h goal _ _
  | sleep ms => exact hk.advanceTo h _
  | serve request => exact hk.serve hconnect hi request

theorem shellStep (hemit : ∀ h : Host, ∀ e ∈ op.emits, R h (h.emit e.1 e.2)) :
    R h (h.shellStep op) := by
  -- the operation comes a moment later, when the host still holds no device
  have ht := hi.of_steady (advanceTo_steady h hi.calm (h.clock + 1)).1
  exact hk.trans (hk.advanceTo h _) (hk.trans (hk.perform hconnect ht hemit) (hk.settle _))

omit hi in
/-- A run of operations from a host that holds no device keeps such a relation from its
first host to its last. -/
theorem shellRun (hi : h.Idle) (ops : List ShellOp)
    (hemit : ∀ h : Host, ∀ op ∈ ops, ∀ e ∈ op.emits, R h (h.emit e.1 e.2)) :
    R h (h.shellRun ops) := by
  induction ops generalizing h with
  | nil => exact hk.refl h
  | cons op ops ih =>
    unfold Host.shellRun
    rw [List.foldl_cons]
    exact hk.trans (hk.shellStep hconnect hi fun h' e he => hemit h' op (List.mem_cons_self ..) e he)
      (ih (shellStep_idle hi op) fun h' op' hop e he => hemit h' op' (List.mem_cons_of_mem op hop) e he)

end Operations

end Keeps


end Host

end Tether
