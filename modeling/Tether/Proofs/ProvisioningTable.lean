import Tether.Host.Provisioning
/-!
# Proofs.ProvisioningTable — the transition table of the provisioning machine

`ProvisioningState.step` is a function with a catch-all refusal.  This module states the
same machine as its table, one constructor per allowed move (`ProvisioningState.Transition`),
and shows the two agree: a step succeeds exactly on the rows of the table
(`step_eq_ok_iff`), and a refused step names either the state and the action, or the
credentials (`step_error_cases`).  Later proofs take a successful step apart by `cases` on
its row instead of unfolding `step`.

What the rows say in their own right:

* credentials pass `checkCredentials` exactly when the SSID has 1 to 32 bytes and the
  passphrase is empty or has 8 to 63 bytes (`checkCredentials_eq_ok_iff`);
* every command a row issues is on one of the three WiFi topics and its payload passes the
  schema `commandSchemas` gives that topic (`Transition.issue_passes`), the credential check
  being at least as strict as the schema of `wifi/connect` (`connectPayload_passes`);
* a row issues at most one command (`Transition.issued_length_le_one`).
-/

namespace Tether

open Tether.Json

set_option autoImplicit false

namespace ProvisioningState

/-- The transition table: from a state, an input, to the next state, with the effects to
carry out in order. -/
inductive Transition : ProvisioningState → ProvisioningInput → ProvisioningState → List Effect → Prop
  /-- An unconfigured device advertises its own access point. -/
  | advertise (ssid : String) : Transition .unconfigured (.portalAdvertised ssid) (.apMode ssid) []
  | scan (ap : String) :
      Transition (.apMode ap) .scanRequested .scanning [.issue wifiScanTopic (Json.object [])]
  /-- Scanning again refreshes the list of networks. -/
  | rescan : Transition .scanning .scanRequested .scanning [.issue wifiScanTopic (Json.object [])]
  /-- Credentials that pass the check start a join, timed by the join timer. -/
  | submit (ssid password : String) (hc : checkCredentials ssid password = .ok ()) :
      Transition .scanning (.credentialsSubmitted ssid password) (.joining ssid)
        [.issue wifiConnectTopic (Json.object [("ssid", .str ssid), ("password", .str password)]),
         .startJoinTimer]
  /-- The join succeeds under the SSID that was submitted, whatever SSID the device reports. -/
  | associate (ssid : String) (reported ip : Option String) :
      Transition (.joining ssid) (.associated reported ip) (.joined ssid)
        (.cancelJoinTimer :: (ip.map Effect.adoptAddress).toList)
  /-- The device was joined to a network before the host saw it. -/
  | alreadyJoined (ssid : String) (ip : Option String) :
      Transition .unconfigured (.associated (some ssid) ip) (.joined ssid) []
  | reject (ssid reason : String) :
      Transition (.joining ssid) (.associationFailed reason) (.faulted (.deviceRejected reason))
        [.cancelJoinTimer]
  | timeout (ssid : String) :
      Transition (.joining ssid) .joinTimedOut (.faulted .provisioningTimeout) []
  | reset (ssid : String) :
      Transition (.joined ssid) .factoryReset .unconfigured [.issue wifiForgetTopic (Json.object [])]
  | retry (r : FaultReason) :
      Transition (.faulted r) .retryRequested .scanning [.issue wifiScanTopic (Json.object [])]

variable {s s' : ProvisioningState} {i : ProvisioningInput} {effs : List Effect}

theorem step_of_transition (ht : Transition s i s' effs) : s.step i = .ok (s', effs) := by
  cases ht with
  | submit ssid password hc =>
    simp only [step, hc]
    rfl
  | _ => rfl

theorem transition_of_step (h : s.step i = .ok (s', effs)) : Transition s i s' effs := by
  fun_cases step s i with
  | case1 ssid =>
    cases h
    exact .advertise ssid
  | case2 ap =>
    cases h
    exact .scan ap
  | case3 =>
    cases h
    exact .rescan
  | case4 ssid password =>
    -- the credentials are checked before anything is issued
    cases hc : checkCredentials ssid password with
    | error e =>
      simp only [step, hc] at h
      cases h
    | ok u =>
      simp only [step, hc] at h
      cases h
      exact .submit ssid password hc
  | case5 ssid reported ip =>
    cases h
    exact .associate ssid reported ip
  | case6 ssid ip =>
    cases h
    exact .alreadyJoined ssid ip
  | case7 ssid reason =>
    cases h
    exact .reject ssid reason
  | case8 ssid =>
    cases h
    exact .timeout ssid
  | case9 ssid =>
    cases h
    exact .reset ssid
  | case10 r =>
    cases h
    exact .retry r
  | case11 =>
    -- outside the table the machine refuses the input
    rename_i h₁ h₂ h₃ h₄ h₅ h₆ h₇ h₈ h₉ h₁₀
    rw [step.eq_11 s i h₁ h₂ h₃ h₄ h₅ h₆ h₇ h₈ h₉ h₁₀] at h
    cases h

/-- A step succeeds exactly on the rows of the table. -/
theorem step_eq_ok_iff : s.step i = .ok (s', effs) ↔ Transition s i s' effs :=
  ⟨transition_of_step, step_of_transition⟩

/-- A refused step either names the state and the action, or refuses the credentials. -/
theorem step_error_cases {e : ProvisioningError} (h : s.step i = .error e) :
    e = .invalidTransition s.name i.action ∨ ∃ reason, e = .invalidCredentials reason := by
  fun_cases step s i
  case case4 ssid password =>
    cases hc : checkCredentials ssid password with
    | error e' =>
      simp only [step, hc] at h
      cases h
      -- the check refuses with a reason of its own
      unfold checkCredentials at hc
      split at hc
      · cases hc
        exact .inr ⟨_, rfl⟩
      · dsimp only at hc
        split at hc
        · cases hc
          exact .inr ⟨_, rfl⟩
        · cases hc
    | ok u =>
      simp only [step, hc] at h
      cases h
  case case11 =>
    rename_i h₁ h₂ h₃ h₄ h₅ h₆ h₇ h₈ h₉ h₁₀
    rw [step.eq_11 s i h₁ h₂ h₃ h₄ h₅ h₆ h₇ h₈ h₉ h₁₀] at h
    cases h
    exact .inl rfl
  all_goals cases h

end ProvisioningState

/-! ## Credentials, in bytes -/

/-- Credentials pass the check exactly when the SSID has 1 to 32 bytes and the passphrase is
empty or has 8 to 63 bytes. -/
theorem checkCredentials_eq_ok_iff (ssid password : String) :
    checkCredentials ssid password = .ok () ↔
      (0 < ssid.utf8ByteSize ∧ ssid.utf8ByteSize ≤ ssidMaxBytes) ∧
        (password.utf8ByteSize = 0 ∨
          passphraseMin ≤ password.utf8ByteSize ∧ password.utf8ByteSize ≤ passphraseMax) := by
  unfold checkCredentials
  by_cases hs : ssid.isEmpty ∨ ssid.utf8ByteSize > ssidMaxBytes
  · rw [if_pos hs]
    simp only [String.isEmpty, beq_iff_eq] at hs
    simp only [reduceCtorEq, false_iff]
    omega
  · rw [if_neg hs]
    simp only [String.isEmpty, beq_iff_eq] at hs
    dsimp only
    by_cases hp : password.utf8ByteSize ≠ 0 ∧
        (password.utf8ByteSize < passphraseMin ∨ password.utf8ByteSize > passphraseMax)
    · rw [if_pos hp]
      simp only [reduceCtorEq, false_iff]
      omega
    · rw [if_neg hp]
      simp only [true_iff]
      omega

/-! ## The commands the table issues -/

/-- The schema of `wifi/connect`: a required SSID of 1 to 32 bytes and a required passphrase
of at most 63 bytes, nothing else. -/
theorem lookup_wifiConnect :
    commandSchemas.lookup wifiConnectTopic =
      some { fields := [{ name := "ssid", kind := .string, required := true, len := some (1, 32) },
                        { name := "password", kind := .string, required := true, len := some (0, 63) }] } := by
  decide

theorem lookup_wifiScan : commandSchemas.lookup wifiScanTopic = some .empty := by decide

theorem lookup_wifiForget : commandSchemas.lookup wifiForgetTopic = some .empty := by decide

/-- A command without arguments passes the empty schema. -/
theorem empty_validate_object_nil : CommandSchema.empty.validate (Json.object []) = .ok () := rfl

/-- The members of the `wifi/connect` payload, in key order. -/
theorem connectPayload_eq (ssid password : String) :
    Json.object [("ssid", .str ssid), ("password", .str password)] =
      .obj [("password", .str password), ("ssid", .str ssid)] := by
  have hlt : "password" < "ssid" := by decide
  simp [Json.object, Json.insertField, hlt]

/-- Credentials that pass the check make a `wifi/connect` payload its schema accepts: the
check is at least as strict as the schema, both counting bytes. -/
theorem connectPayload_passes {ssid password : String} (hc : checkCredentials ssid password = .ok ()) :
    ∃ schema, commandSchemas.lookup wifiConnectTopic = some schema ∧
      schema.validate (Json.object [("ssid", .str ssid), ("password", .str password)]) = .ok () := by
  refine ⟨_, lookup_wifiConnect, ?_⟩
  obtain ⟨⟨hs₁, hs₂⟩, hp⟩ := (checkCredentials_eq_ok_iff ssid password).1 hc
  have hsl : ¬ (ssid.utf8ByteSize < 1 ∨ ssid.utf8ByteSize > 32) := by
    unfold ssidMaxBytes at hs₂
    omega
  have hpl : ¬ (password.utf8ByteSize < 0 ∨ password.utf8ByteSize > 63) := by
    unfold passphraseMin passphraseMax at hp
    omega
  have hl₁ : [("password", Json.str password), ("ssid", .str ssid)].lookup "ssid" = some (.str ssid) := rfl
  have hl₂ : [("password", Json.str password), ("ssid", .str ssid)].lookup "password" =
      some (.str password) := rfl
  rw [connectPayload_eq]
  unfold CommandSchema.validate CommandSchema.violation
  simp only [List.findSome?_cons, List.findSome?_nil, hl₁, hl₂, CommandSchema.checkField,
    FieldKind.accepts, Bool.not_true, Bool.false_eq_true, if_false, hsl, hpl]
  -- both members are named by the schema, so no unknown field remains
  rfl

namespace ProvisioningState.Transition

variable {s s' : ProvisioningState} {i : ProvisioningInput} {effs : List Effect}

/-- Every command a row issues is on a WiFi topic, and its payload passes the schema
`commandSchemas` gives that topic. -/
theorem issue_passes (ht : Transition s i s' effs) {topic : String} {payload : Json}
    (he : Effect.issue topic payload ∈ effs) :
    topic ∈ [wifiScanTopic, wifiConnectTopic, wifiForgetTopic] ∧
      ∃ schema, commandSchemas.lookup topic = some schema ∧ schema.validate payload = .ok () := by
  cases ht with
  | scan ap | rescan | retry r =>
    obtain ⟨rfl, rfl⟩ : topic = wifiScanTopic ∧ payload = Json.object [] := by simpa using he
    exact ⟨by simp, _, lookup_wifiScan, empty_validate_object_nil⟩
  | submit ssid password hc =>
    obtain ⟨rfl, rfl⟩ : topic = wifiConnectTopic ∧
        payload = Json.object [("ssid", .str ssid), ("password", .str password)] := by simpa using he
    exact ⟨by simp, connectPayload_passes hc⟩
  | reset ssid =>
    obtain ⟨rfl, rfl⟩ : topic = wifiForgetTopic ∧ payload = Json.object [] := by simpa using he
    exact ⟨by simp, _, lookup_wifiForget, empty_validate_object_nil⟩
  | associate ssid reported ip =>
    cases ip <;> simp at he
  | advertise _ | alreadyJoined _ _ | reject _ _ | timeout _ => simp at he

/-- A row issues at most one command, so no command can have gone out before a later one
fails. -/
theorem issued_length_le_one (ht : Transition s i s' effs) : (effs.filterMap Host.issued).length ≤ 1 := by
  cases ht with
  | associate ssid reported ip => cases ip <;> simp [List.filterMap_cons, Host.issued]
  | _ => simp [List.filterMap_cons, Host.issued]

end ProvisioningState.Transition

end Tether
