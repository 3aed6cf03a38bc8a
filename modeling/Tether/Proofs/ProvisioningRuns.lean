import Tether.Proofs.ProvisioningMoves
import Tether.Proofs.LinkAgreement
/-!
# Proofs.ProvisioningRuns — every run moves provisioning along its table

Three things move a host's provisioning state: the inputs of the user (scan, credentials,
retry, reset), the inputs of the device read off its telemetry while the background work
runs, and the join timer; and a new session starts it over — a failed connect, a disconnect,
forgetting the device, or the expiry of the active session.  Everything else a host does
leaves the state alone (the frames below).

So one operation of a shell moves provisioning only by moves whose cause it admits
(`Host.shellStep_movedBy`): telemetry, the timer and new sessions at any time, and a user's
input only when the operation asks for it (`ShellOp.admits`).  A run of operations moves it
only by moves one of them admits (`Host.shellRun_movedBy`).  With what the moves themselves
allow (`Proofs.ProvisioningMoves`) this says where a run can enter and leave a fault or a
join, and that it never does so by telemetry or by the timer where the table says otherwise.
-/

namespace Tether

open Tether.Json

set_option autoImplicit false

namespace MoveCause

theorem unprompted_of_source {i : ProvisioningInput} (hs : i.source ≠ .user) :
    (MoveCause.input i).Unprompted :=
  hs

end MoveCause

namespace Host

/-! ## Steps that leave provisioning alone -/

section Frames

variable (h : Host)

/-- A fold of steps that leave the provisioning state alone leaves it alone. -/
theorem foldl_provisioning {α : Type} {g : Host → α → Host}
    (hg : ∀ (h : Host) (a : α), (g h a).provisioning = h.provisioning) :
    ∀ (l : List α) (h : Host), (l.foldl g h).provisioning = h.provisioning := by
  intro l
  induction l with
  | nil => intro h; rfl
  | cons a rest ih =>
    intro h
    rw [List.foldl_cons, ih, hg]

@[simp] theorem setLink_provisioning (s : LinkState) :
    (h.setLink s).provisioning = h.provisioning := by
  unfold setLink
  rw [emit_provisioning]

@[simp] theorem noteJoiner_provisioning (call : String) :
    (h.noteJoiner call).provisioning = h.provisioning := by
  obtain ⟨j, hj⟩ := h.noteJoiner_eq call
  rw [hj]

@[simp] theorem leavePortal_provisioning (ssid : String) :
    (h.leavePortal ssid).provisioning = h.provisioning :=
  h.noteJoiner_provisioning _

@[simp] theorem dispatch_provisioning (c : Command) (mayUseReserved : Bool) :
    (h.dispatch c mayUseReserved).2.provisioning = h.provisioning := by
  unfold dispatch
  split
  · rfl
  · split <;> rfl

@[simp] theorem request_provisioning (c : Command) : (h.request c).2.provisioning = h.provisioning := by
  unfold request
  split
  · rfl
  · split
    · rfl
    · split <;> rfl

@[simp] theorem runPluginRequest_provisioning (plugin : String) (d : CommandDraft) :
    (h.runPluginRequest plugin d).provisioning = h.provisioning := by
  unfold runPluginRequest
  exact h.request_provisioning _

@[simp] theorem closeLink_provisioning : h.closeLink.provisioning = h.provisioning := by
  simp only [closeLink]
  split
  · rw [setLink_provisioning]
  · rfl

@[simp] theorem loseActive_provisioning : h.loseActive.provisioning = h.provisioning := by
  unfold loseActive
  rw [setLink_provisioning]

@[simp] theorem emitAll_provisioning (events : List (String × Json)) :
    (h.emitAll events).provisioning = h.provisioning := by
  unfold emitAll
  refine foldl_provisioning (fun h e => ?_) events h
  obtain ⟨topic, payload⟩ := e
  exact h.emit_provisioning topic payload

@[simp] theorem drainChannel_provisioning (id : Nat) :
    (h.drainChannel id).2.provisioning = h.provisioning := by
  unfold drainChannel
  split <;> rfl

@[simp] theorem takeJournal_provisioning (id : Nat) :
    (h.takeJournal id).2.provisioning = h.provisioning := by
  unfold takeJournal
  split <;> rfl

@[simp] theorem takePluginLog_provisioning (name : String) :
    (h.takePluginLog name).2.provisioning = h.provisioning := by
  unfold takePluginLog
  split <;> rfl

theorem subscribe_provisioning {pattern : String} {handler : Handler} {x : Nat × String} {h' : Host}
    (hs : h.subscribe pattern handler = .ok (x, h')) : h'.provisioning = h.provisioning := by
  unfold subscribe at hs
  split at hs
  · cases hs
  · simp only [Except.ok.injEq, Prod.mk.injEq] at hs
    obtain ⟨-, rfl⟩ := hs
    rfl

theorem registerElsewhere_provisioning {r r' : PluginRegistry} {d : PluginDescriptor} {h' : Host}
    (hr : h.registerElsewhere r d = .ok (r', h')) : h'.provisioning = h.provisioning := by
  unfold registerElsewhere at hr
  cases hreg : r.register d with
  | error e =>
    rw [hreg] at hr
    cases hr
  | ok r₁ =>
    rw [hreg] at hr
    simp only [bind, Except.bind, pure, Except.pure, Except.ok.injEq, Prod.mk.injEq] at hr
    obtain ⟨-, rfl⟩ := hr
    rfl

/-- Probing registers sessions and announces them; provisioning hears of them only later,
from the background work. -/
@[simp] theorem probePortal_provisioning : h.probePortal.2.provisioning = h.provisioning := by
  unfold probePortal
  split
  · rfl
  · refine foldl_snd (fun h' => h'.provisioning = h.provisioning) (fun p ap hp => ?_) _ ([], h) rfl
    exact (emit_provisioning _ _ _).trans hp

@[simp] theorem releaseSubscriptions_provisioning (name : String) :
    (h.releaseSubscriptions name).provisioning = h.provisioning := by
  unfold releaseSubscriptions
  dsimp only
  refine foldl_provisioning (fun h id => ?_) _ h
  rfl

@[simp] theorem stopPlugin_provisioning (d : PluginDescriptor) :
    (h.stopPlugin d).provisioning = h.provisioning := by
  unfold stopPlugin
  split <;> rfl

@[simp] theorem disposePlugins_provisioning : h.disposePlugins.provisioning = h.provisioning := by
  unfold disposePlugins deactivateAll
  split
  · rfl
  · refine foldl_provisioning (fun h e => ?_) _ h
    dsimp only
    split <;> simp

@[simp] theorem stopProvisioning_provisioning : h.stopProvisioning.provisioning = h.provisioning := by
  unfold stopProvisioning
  dsimp only
  refine foldl_provisioning (fun h id => ?_) _ _
  rfl

@[simp] theorem shutdown_provisioning : h.shutdown.provisioning = h.provisioning := by
  unfold shutdown
  simp

end Frames

/-! ## Connect attempts -/

section Attempts

variable (h : Host)

@[simp] theorem failAttempt_provisioning (e : LinkError) :
    (h.failAttempt e).1.provisioning = h.provisioning :=
  h.setLink_provisioning _

@[simp] theorem openChannel_provisioning (a : Attempt) (portal : Option String) :
    (h.openChannel a portal).1.provisioning = h.provisioning := by
  unfold openChannel
  dsimp only
  split <;> simp

/-- Holding the link, an attempt shows link states and joins networks; provisioning is left
to what comes after. -/
@[simp] theorem beginHolding_provisioning (a : Attempt) :
    (h.beginHolding a).1.provisioning = h.provisioning := by
  unfold beginHolding
  split
  · rfl
  · dsimp only
    split
    · simp
    · -- a portal: the call to the joiner, its failure or its delay are only recorded
      split <;> split <;> (try split) <;> simp

@[simp] theorem stepAttempt_provisioning (lock : LinkLock) (i : Nat) (a : Attempt) :
    (h.stepAttempt lock i a).1.provisioning = h.provisioning := by
  unfold stepAttempt
  split
  · split <;> simp
  · split <;> simp
  · split
    · simp
    · split <;> simp
  · rfl

@[simp] theorem ask_provisioning (topic : String) (payload : Json) :
    (h.ask topic payload).2.provisioning = h.provisioning :=
  h.request_provisioning _

@[simp] theorem publish_provisioning (topic : String) (payload : Json) :
    (h.publish topic payload).2.provisioning = h.provisioning :=
  h.dispatch_provisioning _ _

end Attempts

/-! ## What moves provisioning without a user

The background work hands telemetry to the provisioning driver, timers run out, and failed
connects, disconnects and expiries start provisioning over.  None of these applies a user's
input. -/

section Unprompted

variable (h : Host)

theorem handle_movedBy (w : Worker) (e : TelemetryEvent) :
    h.MovedBy MoveCause.Unprompted (h.handle w e).1 := by
  unfold handle
  split
  · exact h.onTelemetry_movedBy e
  · split <;> exact .refl h
  · exact .refl h
  · split <;> exact .refl h

theorem runWorker_movedBy (id fuel : Nat) :
    h.MovedBy MoveCause.Unprompted (h.runWorker id fuel) := by
  induction fuel generalizing h with
  | zero => exact .refl h
  | succ fuel ih =>
    unfold runWorker
    split
    · exact .refl h
    · rename_i w _
      split
      · exact .refl h
      · split
        · exact .refl h
        · rename_i e fanout _
          -- the worker takes an event off its queue and handles it
          have hh := handle_movedBy { h with fanout } w e
          split
          · rename_i h' heq
            rw [heq] at hh
            exact hh
          · rename_i h' heq
            rw [heq] at hh
            exact hh.trans (ih h')

theorem runReady_movedBy (fuel : Nat) : h.MovedBy MoveCause.Unprompted (h.runReady fuel) := by
  induction fuel generalizing h with
  | zero => exact .refl h
  | succ fuel ih =>
    unfold runReady
    split
    · exact .refl h
    · rename_i id rest _
      exact (runWorker_movedBy { h with ready := rest } id _).trans (ih _)

/-- The background work moves provisioning only by the telemetry it hands the driver. -/
theorem settle_movedBy : h.MovedBy MoveCause.Unprompted h.settle := by
  unfold settle
  dsimp only
  -- the requests plugins started leave provisioning alone; the workers run after them
  refine (MovedBy.of_eq ?_).trans (runReady_movedBy _ _)
  refine foldl_provisioning (fun h x => ?_) _ _
  obtain ⟨p, d⟩ := x
  exact h.runPluginRequest_provisioning p d

theorem housekeep_movedBy : h.MovedBy MoveCause.Unprompted h.housekeep := by
  unfold housekeep
  dsimp only
  split
  · -- the active session expired: its link is dropped and provisioning starts over
    refine (MovedBy.of_eq ?_).trans (reseed_movedBy trivial _)
    exact loseActive_provisioning _
  · exact .refl h

/-- A timer that falls due: the join timer feeds `joinTimedOut`, housekeeping may start
provisioning over. -/
theorem fireDue_movedBy : h.MovedBy MoveCause.Unprompted h.fireDue := by
  unfold fireDue
  split
  · exact applyInput_movedBy (MoveCause.unprompted_of_source (by decide)) { h with joinTimer := none }
  · split
    · -- housekeeping, its next round booked
      refine (MovedBy.of_eq ?_).trans (housekeep_movedBy _)
      rfl
    · exact .refl h

theorem advanceWithin_movedBy (t fuel : Nat) :
    h.MovedBy MoveCause.Unprompted (h.advanceWithin t fuel) := by
  induction fuel generalizing h with
  | zero => exact .refl h
  | succ fuel ih =>
    unfold advanceWithin
    split
    next due _ =>
      split
      · -- the timer fires, the background work runs, and time goes on
        exact ((fireDue_movedBy { h with clock := max h.clock due }).trans
          (settle_movedBy _)).trans (ih _)
      · exact .refl h
    next => exact .refl h

theorem advanceTo_movedBy (t : Nat) : h.MovedBy MoveCause.Unprompted (h.advanceTo t) :=
  h.advanceWithin_movedBy t _

theorem waitWithin_movedBy (goal : Host → Bool) (t fuel : Nat) :
    h.MovedBy MoveCause.Unprompted (h.waitWithin goal t fuel).2 := by
  induction fuel generalizing h with
  | zero => exact .refl h
  | succ fuel ih =>
    unfold waitWithin
    split
    · exact .refl h
    · split
      next due _ =>
        split
        · exact ((fireDue_movedBy { h with clock := max h.clock due }).trans
            (settle_movedBy _)).trans (ih _)
        · exact .refl h
      next => exact .refl h

/-- A finished attempt that failed for any reason but cancellation starts provisioning over
with no session. -/
theorem afterAttempt_movedBy (a : Attempt) : h.MovedBy MoveCause.Unprompted (h.afterAttempt a) := by
  unfold afterAttempt
  split
  · exact .refl h
  · exact reseed_movedBy trivial h
  · exact .refl h

theorem visitAttempt_movedBy (lock : LinkLock) (i : Nat) (a : Attempt) :
    h.MovedBy MoveCause.Unprompted (h.visitAttempt lock i a).1 := by
  unfold visitAttempt
  split
  · exact .refl h
  · dsimp only
    have hs := h.stepAttempt_provisioning lock i a
    split
    · exact (MovedBy.of_eq hs).trans (afterAttempt_movedBy _ _)
    · exact .of_eq hs

theorem stepAll_movedBy (as : List Attempt) :
    ∀ (h : Host) (lock : LinkLock) (i : Nat), h.MovedBy MoveCause.Unprompted (h.stepAll lock i as).1 := by
  induction as with
  | nil => intro h lock i; exact .refl h
  | cons a rest ih =>
    intro h lock i
    rw [stepAll_cons]
    exact (visitAttempt_movedBy h lock i a).trans (ih _ _ _)

/-- Rounds of connect attempts move provisioning only by new sessions and by what the
background work and the timers between rounds do. -/
theorem runAttempts_movedBy (fuel : Nat) :
    ∀ (h : Host) (lock : LinkLock) (as : List Attempt),
      h.MovedBy MoveCause.Unprompted (h.runAttempts lock as fuel).1 := by
  induction fuel with
  | zero => intro h lock as; exact .refl h
  | succ fuel ih =>
    intro h lock as
    have h₁ := stepAll_movedBy as h lock 0
    unfold runAttempts
    generalize h.stepAll lock 0 as = r at h₁ ⊢
    obtain ⟨h', lock₁, as₁⟩ := r
    dsimp only at h₁ ⊢
    split
    · exact h₁
    · have h₂ := h₁.trans (settle_movedBy h')
      split
      · exact h₂.trans (ih _ _ _)
      · split
        · exact h₂.trans ((advanceTo_movedBy _ _).trans (ih _ _ _))
        · exact h₂

theorem connectAll_movedBy (endpoints : List Endpoint) :
    h.MovedBy MoveCause.Unprompted (h.connectAll endpoints).2 := by
  unfold connectAll
  exact runAttempts_movedBy _ h {} _

theorem connect_movedBy (e : Endpoint) : h.MovedBy MoveCause.Unprompted (h.connect e).2 := by
  have hall := h.connectAll_movedBy [e]
  unfold connect
  split <;> exact MovedBy.of_pair hall ‹_›

theorem reconnectLast_movedBy : h.MovedBy MoveCause.Unprompted h.reconnectLast.2 := by
  unfold reconnectLast
  split
  · exact .refl h
  · exact h.connect_movedBy _

theorem disconnect_movedBy : h.MovedBy MoveCause.Unprompted h.disconnect :=
  (MovedBy.of_eq h.closeLink_provisioning).trans (reseed_movedBy trivial _)

theorem forgetDevice_movedBy : h.MovedBy MoveCause.Unprompted h.forgetDevice := by
  unfold forgetDevice
  dsimp only
  refine (MovedBy.of_eq ?_).trans (reseed_movedBy trivial _)
  split <;> simp

end Unprompted

/-! ## Served requests -/

section Serving

variable (h : Host)

/-- A served request may apply any of the user's inputs, by the route it names. -/
theorem serveRoute_movedBy (req : HttpRequest) (route : Route) :
    h.MovedBy (fun _ => True) (h.serveRoute req route).2 := by
  have hu : ∀ c, MoveCause.Unprompted c → True := fun _ _ => trivial
  cases route with
  | commands =>
    simp only [serveRoute]
    split
    · exact .refl h
    · split
      · split <;> exact MovedBy.of_pair (.of_eq (h.ask_provisioning _ _)) ‹_›
      · split <;> exact MovedBy.of_pair (.of_eq (h.publish_provisioning _ _)) ‹_›
  | connect =>
    simp only [serveRoute]
    split
    · exact .refl h
    · split <;> exact MovedBy.of_pair ((h.connect_movedBy _).mono hu) ‹_›
  | disconnect => exact h.disconnect_movedBy.mono hu
  | probe =>
    simp only [serveRoute]
    split <;> exact MovedBy.of_pair (.of_eq h.probePortal_provisioning) ‹_›
  | scan | retry | reset =>
    simp only [serveRoute, accepted_snd]
    exact applyInput_movedBy trivial h
  | credentials =>
    simp only [serveRoute]
    split
    · exact .refl h
    · rw [accepted_snd]
      exact applyInput_movedBy trivial h
  | panel name =>
    simp only [serveRoute]
    split <;> exact .refl h
  | telemetry pattern =>
    simp only [serveRoute]
    split <;> exact .refl h
  | sessions | state | diagnostics | plugins | undecodable _ => exact .refl h

theorem serve_movedBy (req : HttpRequest) : h.MovedBy (fun _ => True) (h.serve req).2 := by
  unfold serve
  split
  · exact .refl h
  · rename_i route _
    have hr := h.serveRoute_movedBy req route
    split
    · split
      · exact hr
      · split
        · exact hr
        · exact .refl h
    · split
      · exact hr
      · exact .refl h

end Serving

end Host

/-! ## Operations of a shell -/

namespace ShellOp

/-- The user's inputs an operation hands the provisioning machine: each provisioning
operation its own, a served request any of them, every other operation none. -/
def asks : ShellOp → ProvisioningInput → Prop
  | .requestScan, i => i = .scanRequested
  | .submitCredentials ssid password, i => i = .credentialsSubmitted ssid password
  | .retryProvisioning, i => i = .retryRequested
  | .factoryReset, i => i = .factoryReset
  | .serve _, i => i.source = .user
  | _, _ => False

/-- The causes of the moves an operation may bring about: telemetry, the join timer and new
sessions at any time, a user's input only when the operation asks for it. -/
def admits (op : ShellOp) : MoveCause → Prop
  | .input i => i.source = .user → op.asks i
  | .reseed _ => True

theorem admits_of_unprompted (op : ShellOp) {c : MoveCause} (hc : c.Unprompted) : op.admits c := by
  cases c with
  | input i => exact fun hu => absurd hu hc
  | reseed e => trivial

theorem serve_admits (req : HttpRequest) (c : MoveCause) : (ShellOp.serve req).admits c := by
  cases c with
  | input i => exact id
  | reseed e => trivial

end ShellOp

namespace Host

variable (h : Host)

/-- An operation moves provisioning only by the moves it admits. -/
theorem perform_movedBy (op : ShellOp) : h.MovedBy op.admits (h.perform op) := by
  have hu : ∀ c, MoveCause.Unprompted c → op.admits c := fun _ => op.admits_of_unprompted
  cases op with
  | requestScan | submitCredentials _ _ | retryProvisioning | factoryReset =>
    refine applyInput_movedBy ?_ h
    intro _
    rfl
  | serve request => exact (h.serve_movedBy request).mono fun c _ => ShellOp.serve_admits request c
  | connect endpoint => exact (h.connect_movedBy endpoint).mono hu
  | connectAll endpoints => exact (h.connectAll_movedBy endpoints).mono hu
  | reconnectLast => exact h.reconnectLast_movedBy.mono hu
  | disconnect => exact h.disconnect_movedBy.mono hu
  | forgetDevice => exact h.forgetDevice_movedBy.mono hu
  | waitFor goal ms => exact (h.waitWithin_movedBy goal _ _).mono hu
  | sleep ms => exact (h.advanceTo_movedBy _).mono hu
  | emit topic payload => exact .of_eq (h.emit_provisioning topic payload)
  | emitAll events => exact .of_eq (h.emitAll_provisioning events)
  | publish topic payload => exact .of_eq (h.publish_provisioning topic payload)
  | ask topic payload => exact .of_eq (h.ask_provisioning topic payload)
  | subscribe pattern handler =>
    simp only [perform]
    split
    · exact .of_eq (h.subscribe_provisioning ‹_›)
    · exact .refl h
  | registerElsewhere registry plugin =>
    simp only [perform]
    split
    · exact .of_eq (h.registerElsewhere_provisioning ‹_›)
    · exact .refl h
  | drainChannel id => exact .of_eq (h.drainChannel_provisioning id)
  | takeJournal id => exact .of_eq (h.takeJournal_provisioning id)
  | takePluginLog name => exact .of_eq (h.takePluginLog_provisioning name)
  | probePortal => exact .of_eq h.probePortal_provisioning
  | shutdown => exact .of_eq h.shutdown_provisioning
  | registerSchema topic schema | unsubscribe _ => exact .refl h

/-- One operation of a shell, with the timers before it and the background work after it,
moves provisioning only by the moves the operation admits. -/
theorem shellStep_movedBy (op : ShellOp) : h.MovedBy op.admits (h.shellStep op) := by
  have hu : ∀ c, MoveCause.Unprompted c → op.admits c := fun _ => op.admits_of_unprompted
  unfold shellStep
  exact ((h.advanceTo_movedBy _).mono hu).trans ((perform_movedBy _ op).trans ((settle_movedBy _).mono hu))

/-- A run moves provisioning only by moves one of its operations admits. -/
theorem shellRun_movedBy (ops : List ShellOp) :
    h.MovedBy (fun c => ∃ op ∈ ops, op.admits c) (h.shellRun ops) := by
  induction ops generalizing h with
  | nil => exact .refl h
  | cons op ops ih =>
    unfold shellRun
    rw [List.foldl_cons]
    refine ((h.shellStep_movedBy op).mono fun c hc => ⟨op, List.mem_cons_self, hc⟩).trans ?_
    exact (ih _).mono fun c ⟨op', hop', hc⟩ => ⟨op', List.mem_cons_of_mem _ hop', hc⟩

end Host

end Tether
