import Tether.Proofs.ApplyAtomicity
import Mathlib.Logic.Relation
/-!
# Proofs.ProvisioningMoves — the moves of the provisioning machine, and their causes

A host's provisioning state changes in two ways only: by a row of the transition table
(`ProvisioningState.Transition`) applied to an input, or by a new session starting it over
(`Host.reseed`).  `ProvisioningState.Move` names both, each with its cause.  Every input has
one source (`ProvisioningInput.source`): the user asks to scan, submits credentials, retries
and resets; the device advertises its portal and reports how its join went; the join timer
runs out.

What the table says of the moves, whatever ran them:

* a fault is entered only from a join, by a failed association or by the join timer
  (`Move.faulted_entry`), and left only by a retry, to scanning, or by a new session
  (`Move.faulted_exit`);
* a join is entered only from scanning, by credentials within the byte bounds
  (`Move.joining_entry`);
* a join that completes keeps the SSID that was submitted, whatever the device reports
  (`Move.joined_of_joining`).

On the host, the provisioning driver reads an input off telemetry (`Host.telemetryInput`):
telemetry the machine refuses leaves the host as it was (`Host.onTelemetry_of_refused`), and
a station report whose `associated` is anything but `true` is a failed association.
`Host.MovedBy A h h'` says that the provisioning state of `h'` is reached from that of `h` by
moves whose causes `A` admits; applying an input and starting over are such moves.
-/

namespace Tether

open Tether.Json

set_option autoImplicit false

/-- Where an input to the provisioning machine comes from. -/
inductive InputSource where
  | user
  | telemetry
  | timer
  deriving DecidableEq

/-- The source of each input. -/
def ProvisioningInput.source : ProvisioningInput → InputSource
  | .scanRequested | .credentialsSubmitted _ _ | .factoryReset | .retryRequested => .user
  | .portalAdvertised _ | .associated _ _ | .associationFailed _ => .telemetry
  | .joinTimedOut => .timer

/-- What moves a provisioning state: an input, or a new session. -/
inductive MoveCause where
  | input (i : ProvisioningInput)
  | reseed (endpoint : Option Endpoint)

/-- A cause no user asked for: telemetry, the join timer, or a new session. -/
def MoveCause.Unprompted : MoveCause → Prop
  | .input i => i.source ≠ .user
  | .reseed _ => True

namespace ProvisioningState

/-- The state provisioning starts in for a session reached through `endpoint`, or for none:
AP mode for a portal, unconfigured otherwise. -/
def seed (endpoint : Option Endpoint) : ProvisioningState :=
  match endpoint.bind Endpoint.portalSsid with
  | some ssid => .apMode ssid
  | none => .unconfigured

theorem seed_cases (endpoint : Option Endpoint) :
    seed endpoint = .unconfigured ∨ ∃ ssid, seed endpoint = .apMode ssid := by
  unfold seed
  split
  · exact .inr ⟨_, rfl⟩
  · exact .inl rfl

theorem seed_eq_cases {endpoint : Option Endpoint} {s : ProvisioningState} (hs : seed endpoint = s) :
    s = .unconfigured ∨ ∃ ssid, s = .apMode ssid :=
  hs ▸ seed_cases endpoint

/-- One move of the provisioning state, with its cause. -/
inductive Move : MoveCause → ProvisioningState → ProvisioningState → Prop
  /-- A row of the table. -/
  | apply {s s' : ProvisioningState} {i : ProvisioningInput} {effs : List Effect}
      (ht : Transition s i s' effs) : Move (.input i) s s'
  /-- A new session starts provisioning over, whatever the state was. -/
  | reseed {s s' : ProvisioningState} (endpoint : Option Endpoint) (hs : seed endpoint = s') :
      Move (.reseed endpoint) s s'

namespace Move

variable {c : MoveCause} {s s' : ProvisioningState}

/-- A fault is entered only from a join: by a failed association, whose reason it keeps, or
by the join timer. -/
theorem faulted_entry {r : FaultReason} (hm : Move c s (.faulted r)) :
    ∃ ssid, s = .joining ssid ∧
      ((∃ reason, c = .input (.associationFailed reason) ∧ r = .deviceRejected reason) ∨
        (c = .input .joinTimedOut ∧ r = .provisioningTimeout)) := by
  cases hm with
  | apply ht =>
    cases ht with
    | reject ssid reason => exact ⟨ssid, rfl, .inl ⟨reason, rfl, rfl⟩⟩
    | timeout ssid => exact ⟨ssid, rfl, .inr ⟨rfl, rfl⟩⟩
  | reseed e hs =>
    -- a new session never starts in a fault
    rcases seed_eq_cases hs with he | ⟨_, he⟩ <;> cases he

/-- A fault is left only by a retry, to scanning, or by a new session, to an unconfigured
device or one in AP mode: never by telemetry or by the join timer. -/
theorem faulted_exit {r : FaultReason} (hm : Move c (.faulted r) s') :
    (c = .input .retryRequested ∧ s' = .scanning) ∨
      ∃ e, c = .reseed e ∧ (s' = .unconfigured ∨ ∃ ssid, s' = .apMode ssid) := by
  cases hm with
  | apply ht =>
    cases ht with
    | retry r => exact .inl ⟨rfl, rfl⟩
  | reseed e hs => exact .inr ⟨e, rfl, seed_eq_cases hs⟩

/-- A join is entered only from scanning, by submitting its SSID with a passphrase, both
within the byte bounds: an SSID of 1 to 32 bytes, a passphrase empty or of 8 to 63. -/
theorem joining_entry {ssid : String} (hm : Move c s (.joining ssid)) :
    s = .scanning ∧ ∃ password, c = .input (.credentialsSubmitted ssid password) ∧
      (0 < ssid.utf8ByteSize ∧ ssid.utf8ByteSize ≤ 32) ∧
      (password.utf8ByteSize = 0 ∨ 8 ≤ password.utf8ByteSize ∧ password.utf8ByteSize ≤ 63) := by
  cases hm with
  | apply ht =>
    cases ht with
    | submit ssid password hc =>
      exact ⟨rfl, password, rfl, (checkCredentials_eq_ok_iff ssid password).1 hc⟩
  | reseed e hs => rcases seed_eq_cases hs with he | ⟨_, he⟩ <;> cases he

/-- A join completes under the SSID that was submitted, whatever SSID the device reports. -/
theorem joined_of_joining {ssid ssid' : String} (hm : Move c (.joining ssid) (.joined ssid')) :
    ssid' = ssid ∧ ∃ reported ip, c = .input (.associated reported ip) := by
  cases hm with
  | apply ht =>
    cases ht with
    | associate ssid reported ip => exact ⟨rfl, reported, ip, rfl⟩
  | reseed e hs => rcases seed_eq_cases hs with he | ⟨_, he⟩ <;> cases he

end Move

end ProvisioningState

namespace Host

/-! ## Telemetry, read as input -/

/-- The input the provisioning driver reads off telemetry: a portal advertisement that names
its SSID, or a station report; no other event is an input. -/
def telemetryInput (e : TelemetryEvent) : Option ProvisioningInput :=
  if e.topic == portalAdvertisedTopic then
    match e.payload.get? "ssid" with
    | some (.str ssid) => some (.portalAdvertised ssid)
    | _ => none
  else if e.topic == wifiStaTopic then some (stationInput e.payload)
  else none

theorem stationInput_source (payload : Json) : (stationInput payload).source = .telemetry := by
  unfold stationInput
  dsimp only
  split <;> rfl

/-- Telemetry feeds the machine only inputs of the device. -/
theorem telemetryInput_source {e : TelemetryEvent} {i : ProvisioningInput}
    (he : telemetryInput e = some i) : i.source = .telemetry := by
  unfold telemetryInput at he
  split at he
  · split at he
    · cases he
      rfl
    · cases he
  · split at he
    · cases he
      exact stationInput_source _
    · cases he

/-- The only value `beq` takes for `true` is `true`. -/
theorem beq_some_bool_true {x : Option Json} (hx : (x == some (Json.bool true)) = true) :
    x = some (.bool true) := by
  match x, hx with
  | some (.bool true), _ => rfl
  | some (.bool false), hx => cases hx
  | some .null, hx => cases hx
  | some (.num n), hx => cases n <;> cases hx
  | some (.str _), hx => cases hx
  | some (.arr _), hx => cases hx
  | some (.obj _), hx => cases hx
  | none, hx => cases hx

/-- A station report whose `associated` is missing, not a boolean, or `false` is a failed
association. -/
theorem stationInput_of_not_associated {payload : Json}
    (ha : payload.get? "associated" ≠ some (.bool true)) :
    ∃ reason, stationInput payload = .associationFailed reason := by
  unfold stationInput
  dsimp only
  rw [if_neg (fun hb => ha (beq_some_bool_true hb))]
  exact ⟨_, rfl⟩

theorem telemetryInput_wifiSta {e : TelemetryEvent} (ht : e.topic = wifiStaTopic) :
    telemetryInput e = some (stationInput e.payload) := by
  have hp : (e.topic == portalAdvertisedTopic) = false := by rw [ht]; decide
  have hw : (e.topic == wifiStaTopic) = true := by rw [ht]; decide
  simp only [telemetryInput, hp, hw, if_true, Bool.false_eq_true, if_false]

variable (h : Host)

/-- Telemetry that is an input is applied as one. -/
theorem onTelemetry_of_input {e : TelemetryEvent} {i : ProvisioningInput}
    (he : telemetryInput e = some i) : h.onTelemetry e = (h.applyInput i).2 := by
  unfold telemetryInput at he
  unfold onTelemetry
  by_cases hp : (e.topic == portalAdvertisedTopic) = true
  · rw [if_pos hp] at he ⊢
    -- both read the advertised name from one field: case on what it holds
    cases hs : e.payload.get? "ssid" with
    | none =>
      rw [hs] at he
      cases he
    | some j =>
      rw [hs] at he
      -- only a string is an advertised name
      cases j <;> cases he
      rfl
  · rw [if_neg hp] at he ⊢
    by_cases hw : (e.topic == wifiStaTopic) = true
    · rw [if_pos hw] at he ⊢
      cases he
      rfl
    · rw [if_neg hw] at he
      cases he

@[simp] theorem emit_provisioning (topic : String) (payload : Json) :
    (h.emit topic payload).provisioning = h.provisioning := by
  obtain ⟨r, hr⟩ := h.emit_eq topic payload
  rw [hr]

/-- An event that is no input publishes the driver's state as it is, or does nothing. -/
theorem onTelemetry_of_none_eq {e : TelemetryEvent} (he : telemetryInput e = none) :
    h.onTelemetry e = h ∨ h.onTelemetry e = h.emit provisioningStateTopic h.provisioning.toJson := by
  unfold telemetryInput at he
  unfold onTelemetry
  by_cases hp : (e.topic == portalAdvertisedTopic) = true
  · rw [if_pos hp] at he ⊢
    cases hs : e.payload.get? "ssid" with
    | none => exact .inl rfl
    | some j =>
      rw [hs] at he
      cases j <;> first | exact .inl rfl | cases he
  · rw [if_neg hp] at he ⊢
    by_cases hw : (e.topic == wifiStaTopic) = true
    · rw [if_pos hw] at he
      cases he
    · rw [if_neg hw]
      split
      · split
        · exact .inr rfl
        · exact .inl rfl
      · exact .inl rfl

/-- Telemetry that is no input leaves the provisioning state alone; a connected link only
has it published again. -/
theorem onTelemetry_of_none {e : TelemetryEvent} (he : telemetryInput e = none) :
    (h.onTelemetry e).provisioning = h.provisioning := by
  rcases h.onTelemetry_of_none_eq he with hx | hx <;> rw [hx]
  exact emit_provisioning h _ _

/-- Telemetry the machine refuses for the current state leaves the host as it was. -/
theorem onTelemetry_of_refused {e : TelemetryEvent} {i : ProvisioningInput} {err : ProvisioningError}
    (he : telemetryInput e = some i) (hs : h.provisioning.step i = .error err) :
    h.onTelemetry e = h := by
  rw [h.onTelemetry_of_input he]
  unfold applyInput
  rw [hs]

/-! ## Moves of a host -/

@[simp] theorem reseed_provisioning (e : Option Endpoint) :
    (h.reseed e).provisioning = ProvisioningState.seed e := by
  unfold reseed
  rw [publishProvisioning_provisioning]
  rfl

/-- An apply moves the provisioning state by a row of the table, or leaves it. -/
theorem applyInput_moves (i : ProvisioningInput) :
    (h.applyInput i).2.provisioning = h.provisioning ∨
      ∃ effs, h.provisioning.Transition i (h.applyInput i).2.provisioning effs := by
  unfold applyInput
  cases hs : h.provisioning.step i with
  | error e => exact .inl rfl
  | ok p =>
    obtain ⟨next, effects⟩ := p
    dsimp only
    split
    · -- a command could not go out, and nothing else happened
      rename_i e h' hsend
      have hfail : (h.sendAll (effects.filterMap issued)).1 = .error e := by rw [hsend]
      have hh := h.sendAll_error hfail
      rw [hsend] at hh
      left
      rcases hh with rfl | rfl <;> rfl
    · right
      rw [publishProvisioning_provisioning]
      exact ⟨effects, ProvisioningState.transition_of_step hs⟩

end Host

/-- The provisioning state of `h'` is that of `h`, or reached from it by moves whose causes
`A` admits. -/
def Host.MovedBy (A : MoveCause → Prop) (h h' : Host) : Prop :=
  Relation.ReflTransGen (fun s s' => ∃ c, A c ∧ ProvisioningState.Move c s s')
    h.provisioning h'.provisioning

namespace Host.MovedBy

variable {A B : MoveCause → Prop} {h h' h'' : Host}

theorem refl (h : Host) : h.MovedBy A h := Relation.ReflTransGen.refl

theorem of_eq (hp : h'.provisioning = h.provisioning) : h.MovedBy A h' := by
  unfold MovedBy
  rw [hp]

theorem trans (h₁ : h.MovedBy A h') (h₂ : h'.MovedBy A h'') : h.MovedBy A h'' :=
  Relation.ReflTransGen.trans h₁ h₂

theorem single {c : MoveCause} (hc : A c) (hm : ProvisioningState.Move c h.provisioning h'.provisioning) :
    h.MovedBy A h' :=
  Relation.ReflTransGen.single ⟨c, hc, hm⟩

theorem mono (hAB : ∀ c, A c → B c) (hm : h.MovedBy A h') : h.MovedBy B h' := by
  refine Relation.ReflTransGen.mono ?_ _ _ hm
  rintro s s' ⟨c, hc, hmv⟩
  exact ⟨c, hAB c hc, hmv⟩

/-- A host that comes out of a step as the second half of a pair. -/
theorem of_pair {α : Type} {x : α × Host} {a : α} (hx : h.MovedBy A x.2) (heq : x = (a, h')) :
    h.MovedBy A h' := by
  rw [heq] at hx
  exact hx

end Host.MovedBy

namespace Host

variable {A : MoveCause → Prop}

/-- A fold of steps that move only as `A` admits moves only so. -/
theorem foldl_movedBy {α : Type} {g : Host → α → Host} (hg : ∀ (h : Host) (a : α), h.MovedBy A (g h a)) :
    ∀ (l : List α) (h : Host), h.MovedBy A (l.foldl g h) := by
  intro l
  induction l with
  | nil => intro h; exact .refl h
  | cons a rest ih =>
    intro h
    rw [List.foldl_cons]
    exact (hg h a).trans (ih _)

theorem applyInput_movedBy {i : ProvisioningInput} (hA : A (.input i)) (h : Host) :
    h.MovedBy A (h.applyInput i).2 := by
  rcases h.applyInput_moves i with hp | ⟨effs, ht⟩
  · exact .of_eq hp
  · exact .single hA (.apply ht)

theorem reseed_movedBy {e : Option Endpoint} (hA : A (.reseed e)) (h : Host) :
    h.MovedBy A (h.reseed e) :=
  .single hA (.reseed e (h.reseed_provisioning e).symm)

/-- Telemetry moves provisioning only by the device's inputs. -/
theorem onTelemetry_movedBy (h : Host) (e : TelemetryEvent) :
    h.MovedBy MoveCause.Unprompted (h.onTelemetry e) := by
  cases he : telemetryInput e with
  | none => exact .of_eq (h.onTelemetry_of_none he)
  | some i =>
    rw [h.onTelemetry_of_input he]
    refine applyInput_movedBy ?_ h
    show i.source ≠ .user
    rw [telemetryInput_source he]
    decide

end Host

end Tether
