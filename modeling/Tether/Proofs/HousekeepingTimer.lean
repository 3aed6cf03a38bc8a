import Tether.Proofs.HostFrames
/-!
# Proofs.HousekeepingTimer — a zero interval starts no housekeeping

Housekeeping runs on a timer of its own: a host starts with the first round booked one
interval after its start, and each round books the next one interval on.  A zero interval
would book every round at the instant of the last, so the host books none: the timer is
armed at the start exactly when the interval is not zero (`start_nextHousekeeping`).

Nothing but a housekeeping round sets the timer once the host runs: publishing, the
provisioning driver, the workers and the plugins' requests leave it as it was
(`settle_nextHousekeeping`, `applyInput_nextHousekeeping`), and a round falls due only
when one is booked.  So letting time pass neither arms nor disarms it
(`advanceWithin_armed`), and a host set up with a zero interval never runs housekeeping:
its idle sessions are never expired, however long they stay silent
(`advanceWithin_sessions_of_disarmed`).
-/

namespace Tether

open Tether.Json

set_option autoImplicit false

namespace Host

/-- A fold of steps that leave the housekeeping timer alone leaves it alone. -/
theorem foldl_nextHousekeeping {α : Type} {g : Host → α → Host}
    (hg : ∀ (h : Host) (a : α), (g h a).nextHousekeeping = h.nextHousekeeping) :
    ∀ (l : List α) (h : Host), (l.foldl g h).nextHousekeeping = h.nextHousekeeping := by
  intro l
  induction l with
  | nil => intro h; rfl
  | cons a rest ih =>
    intro h
    rw [List.foldl_cons, ih, hg]

/-! ## The steps that leave the timer alone -/

section Frames

variable (h : Host)

@[simp] theorem emit_nextHousekeeping (topic : String) (payload : Json) :
    (h.emit topic payload).nextHousekeeping = h.nextHousekeeping := by
  obtain ⟨r, hr⟩ := h.emit_eq topic payload
  rw [hr]

@[simp] theorem setLink_nextHousekeeping (s : LinkState) :
    (h.setLink s).nextHousekeeping = h.nextHousekeeping := by
  unfold setLink
  rw [emit_nextHousekeeping]

@[simp] theorem dispatch_nextHousekeeping (c : Command) (mayUseReserved : Bool) :
    (h.dispatch c mayUseReserved).2.nextHousekeeping = h.nextHousekeeping := by
  unfold dispatch
  split
  · rfl
  · split <;> rfl

@[simp] theorem request_nextHousekeeping (c : Command) :
    (h.request c).2.nextHousekeeping = h.nextHousekeeping := by
  unfold request
  split
  · rfl
  · split
    · rfl
    · split <;> rfl

@[simp] theorem runPluginRequest_nextHousekeeping (plugin : String) (d : CommandDraft) :
    (h.runPluginRequest plugin d).nextHousekeeping = h.nextHousekeeping := by
  unfold runPluginRequest
  exact request_nextHousekeeping h _

@[simp] theorem publishProvisioning_nextHousekeeping (s : ProvisioningState) :
    (h.publishProvisioning s).nextHousekeeping = h.nextHousekeeping := by
  unfold publishProvisioning
  rw [emit_nextHousekeeping]

@[simp] theorem reseed_nextHousekeeping (e : Option Endpoint) :
    (h.reseed e).nextHousekeeping = h.nextHousekeeping := by
  unfold reseed
  rw [publishProvisioning_nextHousekeeping]

@[simp] theorem carryOut_nextHousekeeping (e : Effect) :
    (h.carryOut e).nextHousekeeping = h.nextHousekeeping := by
  cases e with
  | issue topic payload => rfl
  | startJoinTimer => rfl
  | cancelJoinTimer => rfl
  | adoptAddress ip =>
    simp only [carryOut, adoptAddress]
    split <;> rfl

theorem sendAll_nextHousekeeping (cs : List Command) :
    (h.sendAll cs).2.nextHousekeeping = h.nextHousekeeping := by
  induction cs generalizing h with
  | nil => rfl
  | cons c rest ih =>
    unfold sendAll
    have hd := dispatch_nextHousekeeping h c true
    split
    · rename_i e h' heq
      rw [heq] at hd
      exact hd
    · rename_i h' heq
      rw [heq] at hd
      rw [ih h', hd]

@[simp] theorem applyInput_nextHousekeeping (i : ProvisioningInput) :
    (h.applyInput i).2.nextHousekeeping = h.nextHousekeeping := by
  unfold applyInput
  split
  · rfl
  · rename_i next effects _
    have hs := sendAll_nextHousekeeping h (effects.filterMap issued)
    split
    · rename_i e h' heq
      rw [heq] at hs
      exact hs
    · rename_i h' heq
      rw [heq] at hs
      rw [publishProvisioning_nextHousekeeping,
        foldl_nextHousekeeping (carryOut_nextHousekeeping ·) effects h', hs]

theorem onTelemetry_nextHousekeeping (e : TelemetryEvent) :
    (h.onTelemetry e).nextHousekeeping = h.nextHousekeeping := by
  unfold onTelemetry
  split
  · split
    · exact applyInput_nextHousekeeping h _
    · rfl
  · split
    · exact applyInput_nextHousekeeping h _
    · split
      · split
        · exact emit_nextHousekeeping h _ _
        · rfl
      · rfl

theorem handle_nextHousekeeping (w : Worker) (e : TelemetryEvent) :
    (h.handle w e).1.nextHousekeeping = h.nextHousekeeping := by
  unfold handle
  split
  · exact onTelemetry_nextHousekeeping h e
  · split <;> rfl
  · rfl
  · split <;> rfl

theorem runWorker_nextHousekeeping (id fuel : Nat) :
    (h.runWorker id fuel).nextHousekeeping = h.nextHousekeeping := by
  induction fuel generalizing h with
  | zero => rfl
  | succ fuel ih =>
    unfold runWorker
    split
    · rfl
    · rename_i w _
      split
      · rfl
      · split
        · rfl
        · rename_i e fanout _
          -- the worker takes an event off its queue, which moves only the bus
          have hh := handle_nextHousekeeping { h with fanout } w e
          split
          · rename_i h' heq
            rw [heq] at hh
            exact hh
          · rename_i h' heq
            rw [heq] at hh
            rw [ih h', hh]

theorem runReady_nextHousekeeping (fuel : Nat) :
    (h.runReady fuel).nextHousekeeping = h.nextHousekeeping := by
  induction fuel generalizing h with
  | zero => rfl
  | succ fuel ih =>
    unfold runReady
    split
    · rfl
    · rename_i id rest _
      dsimp only
      rw [ih, runWorker_nextHousekeeping]

/-- The background work leaves the housekeeping timer as it was. -/
@[simp] theorem settle_nextHousekeeping : h.settle.nextHousekeeping = h.nextHousekeeping := by
  unfold settle
  dsimp only
  rw [runReady_nextHousekeeping,
    foldl_nextHousekeeping (fun h (x : String × CommandDraft) => runPluginRequest_nextHousekeeping h x.1 x.2)]

/-- A housekeeping round expires sessions and may drop the link; the timer stays. -/
@[simp] theorem housekeep_nextHousekeeping : h.housekeep.nextHousekeeping = h.nextHousekeeping := by
  unfold housekeep loseActive
  dsimp only
  split
  · rw [reseed_nextHousekeeping, setLink_nextHousekeeping]
  · rfl

end Frames

/-! ## Time neither arms nor disarms housekeeping -/

section Time

variable (h : Host)

/-- A timer that falls due: the join timer leaves housekeeping alone, and a housekeeping
round, due only when one is booked, books the next. -/
theorem fireDue_armed : h.fireDue.nextHousekeeping.isSome = h.nextHousekeeping.isSome := by
  unfold fireDue
  split
  · rw [applyInput_nextHousekeeping]
  · split
    · rename_i hdue
      obtain ⟨due, hsome, -⟩ := (Option.any_eq_true _ _).mp hdue
      rw [housekeep_nextHousekeeping, hsome]
      rfl
    · rfl

/-- One timer falling due at time `c`, with the background work it sets off. -/
theorem tick_armed (c : Nat) :
    { h with clock := c }.fireDue.settle.nextHousekeeping.isSome = h.nextHousekeeping.isSome := by
  rw [settle_nextHousekeeping, fireDue_armed]

theorem advanceWithin_armed (t fuel : Nat) :
    (h.advanceWithin t fuel).nextHousekeeping.isSome = h.nextHousekeeping.isSome := by
  induction fuel generalizing h with
  | zero => rfl
  | succ fuel ih =>
    unfold advanceWithin
    split
    · split
      · rw [ih, tick_armed]
      · rfl
    · rfl

theorem advanceTo_armed (t : Nat) :
    (h.advanceTo t).nextHousekeeping.isSome = h.nextHousekeeping.isSome :=
  advanceWithin_armed h t _

/-- With no housekeeping booked and no session active, a timer that falls due is the join
timer, which tells the provisioning driver and leaves the sessions alone. -/
theorem fireDue_linkView_of_disarmed (hn : h.sessions.active = none)
    (hd : h.nextHousekeeping = none) : h.fireDue.linkView = h.linkView := by
  unfold fireDue
  split
  · exact applyInput_linkView { h with joinTimer := none } hn _
  · simp only [hd, Option.any_none, Bool.false_eq_true, if_false]

/-- Letting time pass over a host with no housekeeping booked and no session active expires
no session and leaves housekeeping unbooked. -/
theorem advanceWithin_sessions_of_disarmed (t fuel : Nat) :
    h.sessions.active = none → h.nextHousekeeping = none →
      (h.advanceWithin t fuel).sessions = h.sessions ∧
        (h.advanceWithin t fuel).nextHousekeeping = none := by
  induction fuel generalizing h with
  | zero => intro _ hd; exact ⟨rfl, hd⟩
  | succ fuel ih =>
    intro hn hd
    unfold advanceWithin
    split
    · split
      · rename_i due _ _
        -- the join timer falls due at `max h.clock due`: the link and the sessions stay
        have hf := fireDue_linkView_of_disarmed { h with clock := max h.clock due } hn hd
        have hv := (settle_linkView _ (inactive_of_linkView hf hn)).trans hf
        have hd' : ({ h with clock := max h.clock due }.fireDue.settle).nextHousekeeping = none := by
          rw [← Option.not_isSome_iff_eq_none, tick_armed, hd]
          exact Bool.false_ne_true
        have hsessions := sessions_of_linkView hv
        obtain ⟨hs, hd''⟩ := ih _ (inactive_of_linkView hv hn) hd'
        exact ⟨hs.trans hsessions, hd''⟩
      · exact ⟨rfl, hd⟩
    · exact ⟨rfl, hd⟩

end Time

/-! ## The start -/

/-- A host starts with its first housekeeping round booked one interval after its start,
and with none when the interval is zero. -/
theorem start_nextHousekeeping {s : HostSetup} {h : Host} (hs : start s = .ok h) :
    h.nextHousekeeping = if s.config.session.housekeepingIntervalMs = 0 then none
      else some (s.config.session.housekeepingIntervalMs * microsPerMilli) := by
  unfold start at hs
  cases hc : cacheOf s.config with
  | error e => simp [hc, bind, Except.bind] at hs
  | ok cache =>
    simp only [hc, bind, Except.bind] at hs
    split at hs
    · cases hs
    · split at hs
      · cases hs
      · simp only [pure, Except.pure, Except.ok.injEq] at hs
        rw [← hs]

end Host

/-- Housekeeping runs exactly when its interval is not zero: a started host has it booked,
at every later time, exactly when the interval it was set up with is positive.  A host
without it, whose sessions are all idle, keeps every session however much time passes:
nothing else expires them. -/
theorem housekeeping_armed_iff_interval {s : HostSetup} {h : Host} (hs : Host.start s = .ok h) :
    (∀ t, (h.advanceTo t).nextHousekeeping.isSome ↔ 0 < s.config.session.housekeepingIntervalMs) ∧
    ∀ h' : Host, h'.sessions.active = none → h'.nextHousekeeping = none →
      ∀ t, (h'.advanceTo t).sessions = h'.sessions := by
  refine ⟨fun t => ?_, fun h' hn hd t => (h'.advanceWithin_sessions_of_disarmed t _ hn hd).1⟩
  rw [Host.advanceTo_armed, Host.start_nextHousekeeping hs]
  by_cases hz : s.config.session.housekeepingIntervalMs = 0
  · simp [hz]
  · simp [hz, Nat.pos_of_ne_zero hz]

/-- A host set up with a zero housekeeping interval starts, and never has a round booked. -/
theorem zero_interval_never_booked :
    ∃ h, Host.start { config := { session := { housekeepingIntervalMs := 0 } } } = .ok h ∧
      ∀ t, (h.advanceTo t).nextHousekeeping = none := by
  have hok : (Host.start { config := { session := { housekeepingIntervalMs := 0 } } }).toOption.isSome := by
    decide +kernel
  cases hs : Host.start { config := { session := { housekeepingIntervalMs := 0 } } } with
  | error e => simp [hs, Except.toOption] at hok
  | ok h =>
    refine ⟨h, rfl, fun t => ?_⟩
    have harmed := (housekeeping_armed_iff_interval hs).1 t
    simpa using harmed

/-- A host whose settings read a zero housekeeping interval keeps a session it found on a
device's access point after fifty silent milliseconds, though its sessions expire after
one. -/
theorem zero_interval_session_outlives_expiry :
    ((HostConfig.ofText "\x7b\"session\":\x7b\"expiryMs\":1,\"housekeepingIntervalMs\":0\x7d\x7d").toOption.bind
      fun config => (Host.start
          { config
            joiner := { failing := [], delayMs := 0 }
            scan := .ok [{ ssid := "esp32m-1a2b", signal := some 72, secured := false }] }).toOption.map
        fun h => (h.settle.probePortal.2.settle.sleep 50).sessions.sessions.map (·.id)) =
      some [⟨"esp32m-1a2b"⟩] := by
  decide +kernel

end Tether
