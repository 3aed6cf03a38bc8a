import Tether.Proofs.ConnectRounds
/-!
# Proofs.LinkAgreement — the active session and the link state agree

Between operations a host's link state and its active session tell the same story: an
active session is stored, the link is up, being retried within the allowed attempts, or
given up, and the session records that state; with no session active the link shows
disconnected (`Host.LinkAgrees`).

A shell drives a host one operation at a time (`ShellOp`): each a moment after the last,
followed by the background work it caused (`Host.shellStep`).  This host never opens a
device's control channel (`dialFailure`), so no device can act on it and no session is ever
activated; what has to be shown is that every operation — connecting included, however
its attempts end — leaves no session active and the link shown disconnected, with a
well-formed directory (`Host.Idle`).  The frames of `Proofs.HostFrames` and the rounds of
`Proofs.ConnectRounds` give that operation by operation (`perform_idle`), and a run keeps it
(`shellRun_idle`).

For the session directory alone, every run of its operations from an empty directory keeps
the active id naming a stored session, and every session stored under its own id
(`SessionDirectory.WellFormed.run`).
-/

namespace Tether

open Tether.Json

set_option autoImplicit false

/-- What a user of the host asks of it, one operation at a time. -/
inductive ShellOp where
  | emit (topic : String) (payload : Json)
  | emitAll (events : List (String × Json))
  | publish (topic : String) (payload : Json)
  | ask (topic : String) (payload : Json)
  | registerSchema (topic : String) (schema : CommandSchema)
  | subscribe (pattern : String) (handler : Handler)
  | unsubscribe (id : Nat)
  | drainChannel (id : Nat)
  | takeJournal (id : Nat)
  | takePluginLog (name : String)
  | registerElsewhere (registry : PluginRegistry) (plugin : PluginDescriptor)
  | probePortal
  | requestScan
  | submitCredentials (ssid password : String)
  | retryProvisioning
  | factoryReset
  | connect (endpoint : Endpoint)
  | connectAll (endpoints : List Endpoint)
  | reconnectLast
  | disconnect
  | forgetDevice
  | shutdown
  | waitFor (goal : Host → Bool) (ms : Nat)
  | sleep (ms : Nat)
  | serve (request : HttpRequest)

namespace Host

/-- Carries out one operation; one that is refused leaves the host as it was. -/
def perform (h : Host) : ShellOp → Host
  | .emit topic payload => h.emit topic payload
  | .emitAll events => h.emitAll events
  | .publish topic payload => (h.publish topic payload).2
  | .ask topic payload => (h.ask topic payload).2
  | .registerSchema topic schema => { h with rules := h.rules.registerSchema topic schema }
  | .subscribe pattern handler =>
    match h.subscribe pattern handler with
    | .ok (_, h') => h'
    | .error _ => h
  | .unsubscribe id => h.unsubscribe id
  | .drainChannel id => (h.drainChannel id).2
  | .takeJournal id => (h.takeJournal id).2
  | .takePluginLog name => (h.takePluginLog name).2
  | .registerElsewhere registry plugin =>
    match h.registerElsewhere registry plugin with
    | .ok (_, h') => h'
    | .error _ => h
  | .probePortal => h.probePortal.2
  | .requestScan => h.requestScan.2
  | .submitCredentials ssid password => (h.submitCredentials ssid password).2
  | .retryProvisioning => h.retryProvisioning.2
  | .factoryReset => h.factoryReset.2
  | .connect endpoint => (h.connect endpoint).2
  | .connectAll endpoints => (h.connectAll endpoints).2
  | .reconnectLast => h.reconnectLast.2
  | .disconnect => h.disconnect
  | .forgetDevice => h.forgetDevice
  | .shutdown => h.shutdown
  | .waitFor goal ms => (h.waitFor goal ms).2
  | .sleep ms => h.sleep ms
  | .serve request => (h.serve request).2

/-- One operation a moment after the last, followed by the background work it caused. -/
def shellStep (h : Host) (op : ShellOp) : Host :=
  ((h.advanceTo (h.clock + 1)).perform op).settle

/-- Operations one after the other. -/
def shellRun (h : Host) (ops : List ShellOp) : Host := ops.foldl shellStep h

/-- The link state and the active session agree. -/
def LinkAgrees (h : Host) : Prop :=
  match h.sessions.active with
  | none => h.link = .disconnected
  | some id => ∃ s ∈ h.sessions.sessions, s.id = id ∧ s.link = h.link ∧
      (h.link = .connected ∨ h.link = .unreachable ∨
        ∃ k, h.link = .reconnecting k ∧ 1 ≤ k ∧ k ≤ h.config.transport.backoff.maxAttempts)

theorem Idle.linkAgrees {h : Host} (hi : h.Idle) : h.LinkAgrees := by
  unfold LinkAgrees
  rw [hi.calm.inactive]
  exact hi.disconnected

/-! ## Every operation leaves a host idle -/

section Operations

variable {h : Host}

/-- A fold of steps that register no plugin registers none. -/
theorem foldl_registry {α : Type} (g : Host → α → Host) (l : List α) (h : Host)
    (hg : ∀ h a, (g h a).registry = h.registry) : (l.foldl g h).registry = h.registry := by
  induction l generalizing h with
  | nil => rfl
  | cons a rest ih =>
    rw [List.foldl_cons, ih, hg]

/-- A host that comes out of a step as the second half of a pair. -/
theorem Idle.of_pair {α : Type} {x : α × Host} {a : α} {h' : Host} (hx : x.2.Idle)
    (heq : x = (a, h')) : h'.Idle := by
  rw [heq] at hx
  exact hx

@[simp] theorem accepted_snd (r : Except ProvisioningError Unit × Host) :
    (accepted r).2 = r.2 := by
  unfold accepted
  split <;> rfl

theorem applyInput_idle (hi : h.Idle) (i : ProvisioningInput) : (h.applyInput i).2.Idle :=
  hi.of_linkView (applyInput_linkView h hi.calm.inactive i)

theorem ask_idle (hi : h.Idle) (topic : String) (payload : Json) : (h.ask topic payload).2.Idle :=
  hi.of_linkView (request_linkView h _)

theorem publish_idle (hi : h.Idle) (topic : String) (payload : Json) :
    (h.publish topic payload).2.Idle :=
  hi.of_linkView (dispatch_linkView h _ _)

theorem serveRoute_idle (hi : h.Idle) (req : HttpRequest) (route : Route) :
    (h.serveRoute req route).2.Idle := by
  cases route with
  | commands =>
    simp only [serveRoute]
    split
    · exact hi
    · split
      · -- a request waits for its reply
        split <;> exact Idle.of_pair (ask_idle hi _ _) ‹_›
      · split <;> exact Idle.of_pair (publish_idle hi _ _) ‹_›
  | connect =>
    simp only [serveRoute]
    split
    · exact hi
    · split <;> exact Idle.of_pair (connect_idle hi _) ‹_›
  | disconnect => exact disconnect_idle h hi.calm.wellFormed
  | probe =>
    simp only [serveRoute]
    split <;> exact Idle.of_pair (hi.of_steady (probePortal_steady h hi.calm)) ‹_›
  | scan => exact (accepted_snd _).symm ▸ applyInput_idle hi _
  | credentials =>
    simp only [serveRoute]
    split
    · exact hi
    · exact (accepted_snd _).symm ▸ applyInput_idle hi _
  | retry => exact (accepted_snd _).symm ▸ applyInput_idle hi _
  | reset => exact (accepted_snd _).symm ▸ applyInput_idle hi _
  | sessions => exact hi
  | state => exact hi
  | diagnostics => exact hi
  | plugins => exact hi
  | panel name =>
    simp only [serveRoute]
    split <;> exact hi
  | telemetry pattern =>
    simp only [serveRoute]
    split <;> exact hi
  | undecodable param => exact hi

theorem serve_idle (hi : h.Idle) (req : HttpRequest) : (h.serve req).2.Idle := by
  unfold serve
  split
  · exact hi
  · rename_i route _
    have hr := serveRoute_idle hi req route
    split
    · split
      · exact hr
      · split
        · exact hr
        · exact hi
    · split
      · exact hr
      · exact hi

/-- Every operation leaves a host that holds no device holding none. -/
theorem perform_idle (hi : h.Idle) (op : ShellOp) : (h.perform op).Idle := by
  cases op with
  | emit topic payload => exact hi.of_linkView (emit_linkView h topic payload)
  | emitAll events => exact hi.of_linkView (emitAll_linkView h events)
  | publish topic payload => exact publish_idle hi topic payload
  | ask topic payload => exact ask_idle hi topic payload
  | registerSchema topic schema => exact hi.of_linkView rfl
  | subscribe pattern handler =>
    simp only [perform]
    split
    · rename_i heq
      exact hi.of_linkView (subscribe_linkView h heq)
    · exact hi
  | unsubscribe id => exact hi.of_linkView (unsubscribe_linkView h id)
  | drainChannel id => exact hi.of_linkView (drainChannel_linkView h id)
  | takeJournal id => exact hi.of_linkView (takeJournal_linkView h id)
  | takePluginLog name => exact hi.of_linkView (takePluginLog_linkView h name)
  | registerElsewhere registry plugin =>
    simp only [perform]
    split
    · rename_i heq
      exact hi.of_linkView (registerElsewhere_linkView h heq)
    · exact hi
  | probePortal => exact hi.of_steady (probePortal_steady h hi.calm)
  | requestScan => exact applyInput_idle hi _
  | submitCredentials ssid password => exact applyInput_idle hi _
  | retryProvisioning => exact applyInput_idle hi _
  | factoryReset => exact applyInput_idle hi _
  | connect endpoint => exact connect_idle hi endpoint
  | connectAll endpoints => exact connectAll_idle hi endpoints
  | reconnectLast => exact reconnectLast_idle hi
  | disconnect => exact disconnect_idle h hi.calm.wellFormed
  | forgetDevice => exact forgetDevice_idle h hi.calm.wellFormed
  | shutdown => exact shutdown_idle h hi.calm
  | waitFor goal ms => exact hi.of_steady (waitWithin_steady h hi.calm goal _ _)
  | sleep ms => exact hi.of_steady (advanceTo_steady h hi.calm _).1
  | serve request => exact serve_idle hi request

theorem shellStep_idle (hi : h.Idle) (op : ShellOp) : (h.shellStep op).Idle := by
  have ht := hi.of_steady (advanceTo_steady h hi.calm (h.clock + 1)).1
  have hp := perform_idle ht op
  exact hp.of_linkView (settle_linkView _ hp.calm.inactive)

theorem shellRun_idle (hi : h.Idle) (ops : List ShellOp) : (h.shellRun ops).Idle := by
  induction ops generalizing h with
  | nil => exact hi
  | cons op ops ih =>
    unfold shellRun
    rw [List.foldl_cons]
    exact ih (shellStep_idle hi op)

/-- A host that started, once its first background work has run, holds no device. -/
theorem start_idle {setup : HostSetup} (hs : Host.start setup = .ok h) : h.settle.Idle := by
  obtain ⟨hc, hl⟩ := start_calm hs
  have hi : h.Idle := ⟨hc, hl⟩
  exact hi.of_linkView (settle_linkView h hc.inactive)

/-- Starting provisioning subscribes the driver and reserves its topics, and registers no
plugin. -/
theorem startProvisioning_registry (h : Host) : h.startProvisioning.registry = h.registry := by
  unfold startProvisioning
  refine foldl_registry _ _ _ ?_
  intro h' t
  split
  · rfl
  · rfl

/-- A host with no plugins and no autostale rules always starts. -/
theorem start_ok_of_plain (setup : HostSetup) (hp : setup.plugins = [])
    (ha : setup.config.session.autostale = []) : ∃ h, Host.start setup = .ok h := by
  have hc : cacheOf setup.config = .ok {} := by
    unfold cacheOf
    rw [ha]
    rfl
  unfold Host.start
  rw [hc, hp]
  simp only [bind, Except.bind, List.foldlM_nil, pure, Except.pure]
  split
  · -- activation is not refused: the registry has started and is not disposed
    rename_i e herr
    revert herr
    unfold Host.activateAll
    simp [startProvisioning_registry, PluginRegistry.activationRefusal?, Except.mapError]
  · exact ⟨_, rfl⟩

end Operations

end Host

end Tether
