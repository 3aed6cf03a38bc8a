import Tether.Host.Start
import Tether.Api.Routes
import Tether.Proofs.DirectoryInvariant
/-!
# Proofs.HostFrames — the steps that leave the link alone

Only connecting and letting the link go change the link state, the count of connects
begun, or which session is active.  Everything else a host does — publishing, subscribing,
screening commands, running the provisioning driver and the workers, the plugins — leaves
`Host.linkView` (the link, that count, the clock and the sessions) as it was.  One step
needs a condition: the provisioning driver moves the active session to a new address when
its device reports one (`adoptAddress`), which changes nothing while no session is active.
So every lemma here is stated for hosts with no active session, and a fold of such steps is
one as well (`foldl_linkView`).

Time is the exception in the other direction: letting it pass moves the clock and lets
housekeeping expire sessions, but with no session active it drops no link
(`advanceWithin_steady`).  `Host.Calm` — no session active and a well-formed directory —
is what all of these keep; probing for portals adds sessions and keeps it too
(`probePortal_steady`).

Letting the link go, finally, leaves a host `Host.Idle` — calm, with the link shown
disconnected — from any host with a well-formed directory (`closeLink_idle`, and with it
`disconnect`, `forgetDevice` and `shutdown`).
-/

namespace Tether

open Tether.Json

set_option autoImplicit false

/-- What the agreement of link and sessions reads of a host. -/
structure LinkView where
  link : LinkState
  generation : Nat
  clock : Nat
  sessions : SessionDirectory

namespace Host

/-- The link, the count of connects begun, the clock and the sessions of a host. -/
def linkView (h : Host) : LinkView := ⟨h.link, h.generation, h.clock, h.sessions⟩

/-- No session is active and the directory is well formed. -/
structure Calm (h : Host) : Prop where
  inactive : h.sessions.active = none
  wellFormed : h.sessions.WellFormed

section View

variable {h h' : Host}

theorem sessions_of_linkView (hv : h'.linkView = h.linkView) : h'.sessions = h.sessions :=
  congrArg LinkView.sessions hv

theorem link_of_linkView (hv : h'.linkView = h.linkView) : h'.link = h.link :=
  congrArg LinkView.link hv

theorem generation_of_linkView (hv : h'.linkView = h.linkView) : h'.generation = h.generation :=
  congrArg LinkView.generation hv

theorem clock_of_linkView (hv : h'.linkView = h.linkView) : h'.clock = h.clock :=
  congrArg LinkView.clock hv

theorem inactive_of_linkView (hv : h'.linkView = h.linkView) (hn : h.sessions.active = none) :
    h'.sessions.active = none := by
  rw [sessions_of_linkView hv, hn]

theorem Calm.of_linkView (hc : h.Calm) (hv : h'.linkView = h.linkView) : h'.Calm :=
  ⟨inactive_of_linkView hv hc.inactive, sessions_of_linkView hv ▸ hc.wellFormed⟩

end View

/-- A fold of steps that keep the view of a host with no active session keeps it. -/
theorem foldl_linkView {α : Type} {g : Host → α → Host}
    (hg : ∀ h a, h.sessions.active = none → (g h a).linkView = h.linkView) :
    ∀ (l : List α) (h : Host), h.sessions.active = none → (l.foldl g h).linkView = h.linkView := by
  intro l
  induction l with
  | nil => intro h _; rfl
  | cons a rest ih =>
    intro h hn
    have hstep := hg h a hn
    rw [List.foldl_cons, ih (g h a) (inactive_of_linkView hstep hn), hstep]

/-! ## The bus and the workers -/

section Basic

variable (h : Host)

@[simp] theorem wake_linkView (ids : List Nat) : (h.wake ids).linkView = h.linkView := by
  obtain ⟨r, hr⟩ := h.wake_eq ids
  rw [hr]
  rfl

@[simp] theorem emit_linkView (topic : String) (payload : Json) :
    (h.emit topic payload).linkView = h.linkView := by
  obtain ⟨r, hr⟩ := h.emit_eq topic payload
  rw [hr]
  rfl

@[simp] theorem subscribeWith_linkView (p : TopicPattern) (o : Option PluginId) (handler : Handler) :
    (h.subscribeWith p o handler).2.linkView = h.linkView := rfl

@[simp] theorem unsubscribe_linkView (id : Nat) : (h.unsubscribe id).linkView = h.linkView := rfl

@[simp] theorem modifyWorker_linkView (id : Nat) (f : Worker → Worker) :
    (h.modifyWorker id f).linkView = h.linkView := rfl

@[simp] theorem dispatch_linkView (c : Command) (mayUseReserved : Bool) :
    (h.dispatch c mayUseReserved).2.linkView = h.linkView := by
  unfold dispatch
  split
  · rfl
  · split <;> rfl

@[simp] theorem request_linkView (c : Command) : (h.request c).2.linkView = h.linkView := by
  unfold request
  split
  · rfl
  · split
    · rfl
    · split <;> rfl

@[simp] theorem runPluginRequest_linkView (plugin : String) (d : CommandDraft) :
    (h.runPluginRequest plugin d).linkView = h.linkView := by
  unfold runPluginRequest
  exact request_linkView h _

@[simp] theorem publishProvisioning_linkView (s : ProvisioningState) :
    (h.publishProvisioning s).linkView = h.linkView := by
  unfold publishProvisioning
  rw [emit_linkView]
  rfl

@[simp] theorem reseed_linkView (e : Option Endpoint) : (h.reseed e).linkView = h.linkView := by
  unfold reseed
  rw [publishProvisioning_linkView]
  rfl

@[simp] theorem noteJoiner_linkView (call : String) :
    (h.noteJoiner call).linkView = h.linkView := by
  obtain ⟨j, hj⟩ := h.noteJoiner_eq call
  rw [hj]
  rfl

end Basic

/-! ## The provisioning driver -/

section Provisioning

variable (h : Host)

/-- With no session active, adopting an address changes nothing. -/
theorem adoptAddress_of_inactive (hn : h.sessions.active = none) (ip : String) :
    h.adoptAddress ip = h := by
  unfold adoptAddress
  have hs : h.sessions.activeSession? = none := by
    simp [SessionDirectory.activeSession?, hn]
  rw [hs]

theorem carryOut_linkView (hn : h.sessions.active = none) (e : Effect) :
    (h.carryOut e).linkView = h.linkView := by
  cases e with
  | issue topic payload => rfl
  | startJoinTimer => rfl
  | cancelJoinTimer => rfl
  | adoptAddress ip => simp only [carryOut, adoptAddress_of_inactive h hn]

theorem sendAll_linkView (cs : List Command) : (h.sendAll cs).2.linkView = h.linkView := by
  induction cs generalizing h with
  | nil => rfl
  | cons c rest ih =>
    unfold sendAll
    have hd := dispatch_linkView h c true
    split
    · rename_i e h' heq
      rw [heq] at hd
      exact hd
    · rename_i h' heq
      rw [heq] at hd
      rw [ih h', hd]

theorem applyInput_linkView (hn : h.sessions.active = none) (i : ProvisioningInput) :
    (h.applyInput i).2.linkView = h.linkView := by
  unfold applyInput
  split
  · rfl
  · rename_i next effects _
    have hs := sendAll_linkView h (effects.filterMap issued)
    split
    · rename_i e h' heq
      rw [heq] at hs
      exact hs
    · rename_i h' heq
      rw [heq] at hs
      have hc := foldl_linkView (fun h e hn => carryOut_linkView h hn e) effects h'
        (inactive_of_linkView hs hn)
      rw [publishProvisioning_linkView, hc, hs]

theorem onTelemetry_linkView (hn : h.sessions.active = none) (e : TelemetryEvent) :
    (h.onTelemetry e).linkView = h.linkView := by
  unfold onTelemetry
  split
  · split
    · exact applyInput_linkView h hn _
    · rfl
  · split
    · exact applyInput_linkView h hn _
    · split
      · split
        · exact emit_linkView h _ _
        · rfl
      · rfl

theorem stopProvisioning_linkView : h.stopProvisioning.linkView = h.linkView := by
  unfold stopProvisioning
  have hf : ∀ (l : List Nat) (h : Host), (l.foldl unsubscribe h).linkView = h.linkView := by
    intro l
    induction l with
    | nil => intro h; rfl
    | cons id rest ih => intro h; rw [List.foldl_cons, ih]; rfl
  exact hf _ _

end Provisioning

/-! ## The workers -/

section Workers

variable (h : Host)

theorem handle_linkView (hn : h.sessions.active = none) (w : Worker) (e : TelemetryEvent) :
    (h.handle w e).1.linkView = h.linkView := by
  unfold handle
  split
  · exact onTelemetry_linkView h hn e
  · split <;> rfl
  · rfl
  · split <;> rfl

theorem runWorker_linkView (id : Nat) (fuel : Nat) (hn : h.sessions.active = none) :
    (h.runWorker id fuel).linkView = h.linkView := by
  induction fuel generalizing h with
  | zero => rfl
  | succ fuel ih =>
    unfold runWorker
    split
    · rfl
    · rename_i w _
      split
      · rfl
      · split
        · rfl
        · rename_i e fanout _
          -- the worker takes an event: the bus changes, the view does not
          have hview : ({ h with fanout } : Host).linkView = h.linkView := rfl
          have hh := handle_linkView { h with fanout } hn w e
          split
          · rename_i h' heq
            rw [heq] at hh
            rw [hh, hview]
          · rename_i h' heq
            rw [heq] at hh
            rw [ih h' (inactive_of_linkView (hh.trans hview) hn), hh, hview]

theorem runReady_linkView (fuel : Nat) (hn : h.sessions.active = none) :
    (h.runReady fuel).linkView = h.linkView := by
  induction fuel generalizing h with
  | zero => rfl
  | succ fuel ih =>
    unfold runReady
    split
    · rfl
    · rename_i id rest _
      have hw := runWorker_linkView { h with ready := rest } id
        ({ h with ready := rest } : Host).queuedCount.succ hn
      rw [ih _ (inactive_of_linkView hw hn), hw]
      rfl

/-- Running the background work keeps the view of a host with no active session. -/
theorem settle_linkView (hn : h.sessions.active = none) : h.settle.linkView = h.linkView := by
  unfold settle
  have hr := foldl_linkView (fun h (x : String × CommandDraft) _ => runPluginRequest_linkView h x.1 x.2)
    h.pendingRequests { h with pendingRequests := [] } hn
  rw [runReady_linkView _ _ (inactive_of_linkView hr hn), hr]
  rfl

@[simp] theorem drainChannel_linkView (id : Nat) : (h.drainChannel id).2.linkView = h.linkView := by
  unfold drainChannel
  split <;> rfl

@[simp] theorem takeJournal_linkView (id : Nat) : (h.takeJournal id).2.linkView = h.linkView := by
  unfold takeJournal
  split <;> rfl

end Workers

/-! ## The plugins -/

section Plugins

variable (h : Host)

theorem pluginSubscribe_linkView {d : PluginDescriptor} {pattern : String} {h' : Host}
    (hs : h.pluginSubscribe d pattern = .ok h') : h'.linkView = h.linkView := by
  unfold pluginSubscribe at hs
  cases hp : TopicPattern.parse pattern with
  | error e =>
    rw [hp] at hs
    cases hs
  | ok p =>
    rw [hp] at hs
    simp only [Except.mapError, bind, Except.bind] at hs
    split at hs
    · cases hs
    · simp only [pure, Except.pure, Except.ok.injEq] at hs
      subst hs
      rfl

theorem probeSubscribes_linkView (d : PluginDescriptor) (ps : List String) {h' : Host}
    (hs : probeSubscribes d h ps = .ok h') : h'.linkView = h.linkView := by
  induction ps generalizing h with
  | nil =>
    simp only [probeSubscribes, Except.ok.injEq] at hs
    rw [hs]
  | cons p rest ih =>
    simp only [probeSubscribes, bind, Except.bind] at hs
    split at hs
    · cases hs
    · rename_i h₁ heq
      rw [ih h₁ hs, pluginSubscribe_linkView h heq]

theorem probePublishes_linkView (name : String) (cs : List CommandDraft) :
    (probePublishes name h cs).1.linkView = h.linkView := by
  induction cs generalizing h with
  | nil => rfl
  | cons c rest ih =>
    have hd := dispatch_linkView h
      { id := default, topic := c.topic, payload := c.payload, issuer := some ⟨name⟩ } false
    unfold probePublishes pluginPublish
    split
    · rename_i e h₁ heq
      rw [heq] at hd
      exact hd
    · rename_i h₁ heq
      rw [heq] at hd
      rw [ih h₁, hd]

theorem activateProbe_linkView (d : PluginDescriptor) (script : ProbeScript) :
    (h.activateProbe d script).1.linkView = h.linkView := by
  unfold activateProbe
  -- the notes go to the registry only
  have hnotes : ∀ (ls : List String) (h : Host),
      (ls.foldl (fun h l => { h with registry := h.registry.note d.name l }) h).linkView =
        h.linkView := by
    intro ls
    induction ls with
    | nil => intro h; rfl
    | cons l rest ih => intro h; rw [List.foldl_cons, ih]; rfl
  dsimp only
  split
  · exact hnotes _ _
  · rename_i h₁ heq
    have hs := probeSubscribes_linkView _ d _ heq
    have hp := probePublishes_linkView h₁ d.name script.publish
    split
    · rename_i h₂ e heq₂
      rw [heq₂] at hp
      rw [hp, hs, hnotes]
    · rename_i h₂ heq₂
      rw [heq₂] at hp
      change h₂.linkView = _
      rw [hp, hs, hnotes]

@[simp] theorem activatePanel_linkView (name : String) (patterns : List String) :
    (h.activatePanel name patterns).1.linkView = h.linkView := by
  unfold activatePanel
  split <;> rfl

@[simp] theorem releaseSubscriptions_linkView (name : String) :
    (h.releaseSubscriptions name).linkView = h.linkView := by
  unfold releaseSubscriptions
  have hf : ∀ (l : List Nat) (h : Host), (l.foldl unsubscribe h).linkView = h.linkView := by
    intro l
    induction l with
    | nil => intro h; rfl
    | cons id rest ih => intro h; rw [List.foldl_cons, ih]; rfl
  exact hf _ _

theorem activateEntry_linkView (d : PluginDescriptor) :
    (h.activateEntry d).linkView = h.linkView := by
  unfold activateEntry
  split
  rename_i h₁ failure heq
  -- the plugin's own activation, panel or probe
  have hact : h₁.linkView = h.linkView := by
    split at heq
    · rename_i patterns _
      have hp := activatePanel_linkView h d.name patterns
      rw [heq] at hp
      exact hp
    · rename_i script _
      have hp := activateProbe_linkView h d script
      rw [heq] at hp
      exact hp
  split
  · exact (releaseSubscriptions_linkView h₁ _).trans hact
  · exact hact

theorem activateAll_linkView (hn : h.sessions.active = none) {n : Nat} {h' : Host}
    (ha : h.activateAll = .ok (n, h')) : h'.linkView = h.linkView := by
  unfold activateAll at ha
  split at ha
  · cases ha
  · simp only [Except.ok.injEq, Prod.mk.injEq] at ha
    obtain ⟨-, rfl⟩ := ha
    exact foldl_linkView (fun h d _ => activateEntry_linkView h d) _ h hn

@[simp] theorem stopPlugin_linkView (d : PluginDescriptor) :
    (h.stopPlugin d).linkView = h.linkView := by
  unfold stopPlugin
  split <;> rfl

theorem deactivateAll_linkView (hn : h.sessions.active = none) :
    h.deactivateAll.linkView = h.linkView := by
  unfold deactivateAll
  refine foldl_linkView (fun h e _ => ?_) _ h hn
  dsimp only
  by_cases ha : (h.registry.stateOf? e.descriptor.name == some .active) = true
  · simp only [ha, if_true]
    exact (releaseSubscriptions_linkView _ _).trans (stopPlugin_linkView h _)
  · simp only [ha, if_false, Bool.false_eq_true]
    exact releaseSubscriptions_linkView h _

theorem disposePlugins_linkView (hn : h.sessions.active = none) :
    h.disposePlugins.linkView = h.linkView := by
  unfold disposePlugins
  split
  · rfl
  · exact deactivateAll_linkView h hn

theorem registerPlugin_linkView {d : PluginDescriptor} {h' : Host}
    (hr : h.registerPlugin d = .ok h') : h'.linkView = h.linkView := by
  unfold registerPlugin at hr
  cases hreg : h.registry.register d with
  | error e =>
    rw [hreg] at hr
    cases hr
  | ok r =>
    rw [hreg] at hr
    simp only [bind, Except.bind, pure, Except.pure, Except.ok.injEq] at hr
    subst hr
    rfl

theorem registerElsewhere_linkView {r r' : PluginRegistry} {d : PluginDescriptor} {h' : Host}
    (hr : h.registerElsewhere r d = .ok (r', h')) : h'.linkView = h.linkView := by
  unfold registerElsewhere at hr
  cases hreg : r.register d with
  | error e =>
    rw [hreg] at hr
    cases hr
  | ok r₁ =>
    rw [hreg] at hr
    simp only [bind, Except.bind, pure, Except.pure, Except.ok.injEq, Prod.mk.injEq] at hr
    obtain ⟨-, rfl⟩ := hr
    rfl

@[simp] theorem takePluginLog_linkView (name : String) :
    (h.takePluginLog name).2.linkView = h.linkView := by
  unfold takePluginLog
  split <;> rfl

end Plugins

/-! ## What the host's users call -/

section Users

variable (h : Host)

theorem startProvisioning_linkView (hn : h.sessions.active = none) :
    h.startProvisioning.linkView = h.linkView := by
  unfold startProvisioning
  dsimp only
  refine (foldl_linkView (fun h t _ => ?_) _ _ ?_).trans rfl
  · split
    · rfl
    · rfl
  · exact hn

theorem subscribe_linkView {pattern : String} {handler : Handler} {x : Nat × String} {h' : Host}
    (hs : h.subscribe pattern handler = .ok (x, h')) : h'.linkView = h.linkView := by
  unfold subscribe at hs
  split at hs
  · cases hs
  · simp only [Except.ok.injEq, Prod.mk.injEq] at hs
    obtain ⟨-, rfl⟩ := hs
    rfl

@[simp] theorem emitAll_linkView (events : List (String × Json)) :
    (h.emitAll events).linkView = h.linkView := by
  unfold emitAll
  induction events generalizing h with
  | nil => rfl
  | cons e rest ih => rw [List.foldl_cons, ih, emit_linkView]

theorem foldlM_registerPlugin_linkView (plugins : List PluginDescriptor) {h' : Host}
    (hr : plugins.foldlM (fun h d => (h.registerPlugin d).mapError StartError.registry) h =
      .ok h') : h'.linkView = h.linkView := by
  induction plugins generalizing h with
  | nil =>
    simp only [List.foldlM_nil, pure, Except.pure, Except.ok.injEq] at hr
    rw [hr]
  | cons d rest ih =>
    rw [List.foldlM_cons] at hr
    cases hreg : h.registerPlugin d with
    | error e => simp [hreg, Except.mapError, bind, Except.bind] at hr
    | ok h₁ =>
      simp only [hreg, Except.mapError, bind, Except.bind] at hr
      rw [ih h₁ hr, registerPlugin_linkView h hreg]

end Users

/-- A host starts with the link down, no session active, and an empty directory. -/
theorem start_calm {setup : HostSetup} {h : Host} (hs : Host.start setup = .ok h) :
    h.Calm ∧ h.link = .disconnected := by
  unfold start at hs
  cases hc : cacheOf setup.config with
  | error e => simp [hc, bind, Except.bind] at hs
  | ok cache =>
    simp only [hc, bind, Except.bind] at hs
    -- the host as built, before its plugins and provisioning driver
    have h₀ : Calm
        { config := setup.config, origin := setup.origin,
          fanout := Fanout.new cache setup.config.bus.subscriberBuffer,
          sessions := { store := setup.store, expiry := Span.ofMillis setup.config.session.expiryMs },
          joiner := setup.joiner, scan := setup.scan } :=
      ⟨rfl, SessionDirectory.wellFormed_empty _ _⟩
    have hp := startProvisioning_linkView _ h₀.inactive
    split at hs
    · cases hs
    · rename_i h₁ hreg
      have hr := (foldlM_registerPlugin_linkView _ setup.plugins hreg).trans hp
      split at hs
      · cases hs
      · rename_i x ha
        cases hact : Host.activateAll { h₁ with registry := { h₁.registry with started := true } } with
        | error e => simp [hact, Except.mapError] at ha
        | ok y =>
          simp only [hact, Except.mapError, Except.ok.injEq] at ha
          subst ha
          simp only [pure, Except.pure, Except.ok.injEq] at hs
          subst hs
          have hv := (activateAll_linkView _
            (by exact inactive_of_linkView hr h₀.inactive) hact).trans hr
          exact ⟨h₀.of_linkView hv, link_of_linkView hv⟩

/-! ## Time, probing, and letting the link go -/

/-- `h'` comes after the calm host `h` without touching the link or the count of connects
begun, and is calm too; the sessions may have moved, and the clock only forward. -/
structure Steady (h h' : Host) : Prop where
  calm : h'.Calm
  link : h'.link = h.link
  generation : h'.generation = h.generation
  clock_le : h.clock ≤ h'.clock

namespace Steady

variable {h h' h'' : Host}

theorem refl (hc : h.Calm) : Steady h h := ⟨hc, rfl, rfl, le_rfl⟩

theorem trans (h₁ : Steady h h') (h₂ : Steady h' h'') : Steady h h'' :=
  ⟨h₂.calm, h₂.link.trans h₁.link, h₂.generation.trans h₁.generation,
    h₁.clock_le.trans h₂.clock_le⟩

theorem of_linkView (hc : h.Calm) (hv : h'.linkView = h.linkView) : Steady h h' :=
  ⟨hc.of_linkView hv, link_of_linkView hv, generation_of_linkView hv, (clock_of_linkView hv).ge⟩

/-- Of the earlier host only the link, the count of connects begun and the clock matter. -/
theorem left {h₁ : Host} (hs : Steady h₁ h') (hl : h₁.link = h.link)
    (hg : h₁.generation = h.generation) (hle : h.clock ≤ h₁.clock) : Steady h h' :=
  ⟨hs.calm, hs.link.trans hl, hs.generation.trans hg, hle.trans hs.clock_le⟩

theorem setClock (hc : h.Calm) {c : Nat} (hle : h.clock ≤ c) : Steady h { h with clock := c } :=
  ⟨⟨hc.inactive, hc.wellFormed⟩, rfl, rfl, hle⟩

theorem setSessions {d : SessionDirectory} (hn : d.active = none) (hw : d.WellFormed) :
    Steady h { h with sessions := d } :=
  ⟨⟨hn, hw⟩, rfl, rfl, le_rfl⟩

end Steady

section Time

variable (h : Host)

/-- With no session active, housekeeping only expires idle sessions. -/
theorem housekeep_steady (hc : h.Calm) : Steady h h.housekeep := by
  have hkept : (h.sessions.active.any (h.sessions.expireStale h.now).1.contains) = false := by
    rw [hc.inactive]
    rfl
  simp only [housekeep, hkept, Bool.false_eq_true, if_false]
  refine ⟨⟨?_, hc.wellFormed.apply (.expireStale h.now)⟩, rfl, rfl, le_rfl⟩
  rw [SessionDirectory.expireStale_active, hkept, if_neg Bool.false_ne_true, hc.inactive]

theorem fireDue_steady (hc : h.Calm) : Steady h h.fireDue := by
  unfold fireDue
  split
  · -- the join timer: provisioning learns the join timed out
    refine Steady.of_linkView hc ?_
    exact applyInput_linkView _ (by exact hc.inactive) _
  · split
    · refine (housekeep_steady _ ?_).left rfl rfl le_rfl
      exact ⟨hc.inactive, hc.wellFormed⟩
    · exact Steady.refl hc

/-- A timer firing at time `c`, with the background work it sets off. -/
theorem tick_steady (hc : h.Calm) {c : Nat} (hle : h.clock ≤ c) :
    Steady h { h with clock := c }.fireDue.settle := by
  have hf : Steady h { h with clock := c }.fireDue :=
    (fireDue_steady { h with clock := c } ⟨hc.inactive, hc.wellFormed⟩).left rfl rfl hle
  exact hf.trans (Steady.of_linkView hf.calm (settle_linkView _ hf.calm.inactive))

/-- Letting time pass to `t` keeps a calm host steady and brings its clock to `t` at least. -/
theorem advanceWithin_steady (hc : h.Calm) (t fuel : Nat) :
    Steady h (h.advanceWithin t fuel) ∧ t ≤ (h.advanceWithin t fuel).clock := by
  induction fuel generalizing h with
  | zero => exact ⟨Steady.setClock hc (le_max_left _ _), Nat.le_max_right _ _⟩
  | succ fuel ih =>
    unfold advanceWithin
    split
    next due _ =>
      split
      · have hs := tick_steady h hc (le_max_left h.clock due)
        obtain ⟨hrest, hclock⟩ := ih _ hs.calm
        exact ⟨hs.trans hrest, hclock⟩
      · exact ⟨Steady.setClock hc (le_max_left _ _), Nat.le_max_right _ _⟩
    next => exact ⟨Steady.setClock hc (le_max_left _ _), Nat.le_max_right _ _⟩

theorem advanceTo_steady (hc : h.Calm) (t : Nat) :
    Steady h (h.advanceTo t) ∧ t ≤ (h.advanceTo t).clock :=
  advanceWithin_steady h hc t _

theorem waitWithin_steady (hc : h.Calm) (goal : Host → Bool) (t fuel : Nat) :
    Steady h (h.waitWithin goal t fuel).2 := by
  induction fuel generalizing h with
  | zero => exact Steady.refl hc
  | succ fuel ih =>
    unfold waitWithin
    split
    · exact Steady.refl hc
    · split
      next due _ =>
        split
        · have hs := tick_steady h hc (le_max_left h.clock due)
          exact hs.trans (ih _ hs.calm)
        · exact Steady.setClock hc (le_max_left _ _)
      next => exact Steady.setClock hc (le_max_left _ _)

end Time

/-! ## Probing, and letting the link go -/

/-- No session is active, the directory is well formed and the link shows disconnected:
how a host holding no device stands between operations. -/
structure Idle (h : Host) : Prop where
  calm : h.Calm
  disconnected : h.link = .disconnected

theorem Idle.of_steady {h h' : Host} (hi : h.Idle) (hs : Steady h h') : h'.Idle :=
  ⟨hs.calm, hs.link.trans hi.disconnected⟩

theorem Idle.of_linkView {h h' : Host} (hi : h.Idle) (hv : h'.linkView = h.linkView) :
    h'.Idle :=
  hi.of_steady (Steady.of_linkView hi.calm hv)

/-- A fold that carries a host along with a result keeps what each step keeps of the host. -/
theorem foldl_snd {α β : Type} (P : Host → Prop) {g : β × Host → α → β × Host}
    (hg : ∀ p a, P p.2 → P (g p a).2) : ∀ (l : List α) (p : β × Host), P p.2 → P (l.foldl g p).2 := by
  intro l
  induction l with
  | nil => intro p hp; exact hp
  | cons a rest ih =>
    intro p hp
    rw [List.foldl_cons]
    exact ih _ (hg p a hp)

section LettingGo

variable (h : Host)

/-- Showing a link state with no session active changes nothing else the view reads. -/
theorem setLink_linkView (hn : h.sessions.active = none) (s : LinkState) :
    (h.setLink s).linkView = { h.linkView with link := s } := by
  unfold setLink
  rw [emit_linkView]
  simp only [linkView, hn]

/-- Registering one access point a probe found, and announcing it. -/
theorem announce_steady (hc : h.Calm) (id : DeviceId) (endpoint : Endpoint) (topic : String)
    (payload : Json) :
    Steady h ({ h with sessions := (h.sessions.discovered id endpoint h.now).2 }.emit topic payload) := by
  have hs : Steady h { h with sessions := (h.sessions.discovered id endpoint h.now).2 } :=
    Steady.setSessions (by rw [SessionDirectory.discovered_active, hc.inactive])
      (hc.wellFormed.apply (.discovered id endpoint h.now))
  exact hs.trans (Steady.of_linkView hs.calm (emit_linkView _ _ _))

/-- Probing registers the portals it finds as sessions, and activates none. -/
theorem probePortal_steady (hc : h.Calm) : Steady h h.probePortal.2 := by
  unfold probePortal
  split
  · exact Steady.refl hc
  · refine foldl_snd (Steady h) (fun p ap hs => ?_) _ ([], h) (Steady.refl hc)
    exact hs.trans (announce_steady _ hs.calm _ _ _ _)

theorem Calm.setLink {h : Host} (hc : h.Calm) (s : LinkState) : (h.setLink s).Calm := by
  have hs : (h.setLink s).sessions = h.sessions :=
    congrArg LinkView.sessions (setLink_linkView h hc.inactive s)
  constructor
  · rw [hs]
    exact hc.inactive
  · rw [hs]
    exact hc.wellFormed

/-- Letting the link go leaves no session active and the link shown disconnected. -/
theorem closeLink_idle (hw : h.sessions.WellFormed) : h.closeLink.Idle := by
  -- the host once the active session is closed, before the link is shown
  have hc : Calm { h with generation := h.generation + 1, sessions := h.sessions.close.2,
                          fanout := h.fanout.resetSession } :=
    ⟨SessionDirectory.close_active _, hw.apply .close⟩
  simp only [closeLink]
  split
  · exact ⟨hc.setLink _, setLink_link _ _⟩
  · rename_i hl
    exact ⟨hc, by simpa using hl⟩

theorem disconnect_idle (hw : h.sessions.WellFormed) : h.disconnect.Idle :=
  (closeLink_idle h hw).of_linkView (reseed_linkView _ none)

theorem forgetDevice_idle (hw : h.sessions.WellFormed) : h.forgetDevice.Idle := by
  have hi := closeLink_idle h hw
  simp only [forgetDevice]
  refine Idle.of_linkView ?_ (reseed_linkView _ none)
  split
  · -- the device is forgotten too: its session and, if saved, the selection
    rename_i id _
    have hn : (h.closeLink.sessions.forget id).active = none := by
      rw [SessionDirectory.forget_active, hi.calm.inactive]
      rfl
    exact ⟨⟨hn, hi.calm.wellFormed.apply (.forget id)⟩, hi.disconnected⟩
  · exact hi

theorem shutdown_idle (hc : h.Calm) : h.shutdown.Idle := by
  have hv : h.disposePlugins.stopProvisioning.linkView = h.linkView :=
    (stopProvisioning_linkView _).trans (disposePlugins_linkView h hc.inactive)
  have hi := closeLink_idle _ (hc.of_linkView hv).wellFormed
  exact ⟨⟨hi.calm.inactive, hi.calm.wellFormed⟩, hi.disconnected⟩

end LettingGo


end Host

end Tether
