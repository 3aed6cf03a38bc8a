import Tether.Proofs.ProvisioningTable
import Tether.Host.Start
/-!
# Proofs.ReservedCommands — the provisioning commands always pass the rules

Starting the provisioning driver reserves its three WiFi topics with the schemas of
`commandSchemas` (`CommandRules.reserveProvisioning`).  Registering a schema afterwards
changes nothing for a reserved topic, and registering one before is overwritten by the
reservation; plugins register the schemas of the commands they declare one by one
(`Host.registerPlugin_rules`).  So whatever schemas are registered around the start, the
rules keep the provisioning schemas (`CommandRules.ReservesProvisioning`).

Together with the table (`Proofs.ProvisioningTable`), whose commands pass those schemas,
the rules never refuse a command the machine issues (`ReservesProvisioning.screen_issued`),
and applying an input fails only because the table refuses it, the credentials are refused,
or the link does not take the command (`Host.applyInput_error_cases`).

The main statement is `provisioning_commands_pass_reserved_schemas`.
-/

namespace Tether

open Tether.Json

set_option autoImplicit false

namespace SchemaRegistry

/-- Looking a topic up in a registry list, one member at a time. -/
theorem lookup_cons_ite {α : Type} (t k : String) (x : α) (rest : List (String × α)) :
    ((k, x) :: rest).lookup t = if t = k then some x else rest.lookup t := by
  by_cases h : t = k
  · subst h
    simp
  · simp [List.lookup_cons, beq_eq_false_iff_ne.mpr h, h]

theorem lookup_insert_go (topic t : String) (s : CommandSchema) (l : List (String × CommandSchema)) :
    (insert.go topic s l).lookup t = if t = topic then some s else l.lookup t := by
  induction l with
  | nil => simp only [insert.go, lookup_cons_ite, List.lookup_nil]
  | cons e rest ih =>
    obtain ⟨t₀, x⟩ := e
    unfold insert.go
    by_cases hlt : topic < t₀
    · simp only [hlt, if_true, lookup_cons_ite]
    · by_cases heq : topic = t₀
      · -- the topic is replaced in place
        subst heq
        by_cases ht : t = topic <;> simp [ht, lookup_cons_ite]
      · simp only [hlt, heq, if_false, lookup_cons_ite, ih]
        by_cases ht : t = t₀
        · subst ht
          simp [Ne.symm heq]
        · simp [ht]

/-- After registering a schema for a topic, the topic has that schema and every other topic
keeps its own. -/
theorem find?_insert (r : SchemaRegistry) (topic t : String) (s : CommandSchema) :
    (r.insert topic s).find? t = if t = topic then some s else r.find? t :=
  lookup_insert_go topic t s r.entries

end SchemaRegistry

namespace CommandRules

/-- Registers schemas in order, as a plugin's registration does with the commands it
declares. -/
def registerAll (r : CommandRules) (schemas : List (String × CommandSchema)) : CommandRules :=
  schemas.foldl (fun r (t, s) => r.registerSchema t s) r

/-- Reserves the provisioning commands with their schemas, as the provisioning driver does
when it starts. -/
def reserveProvisioning (r : CommandRules) : CommandRules :=
  commandSchemas.foldl (fun r (t, s) => r.reserve t s) r

/-- Every provisioning command is reserved and has its own schema. -/
def ReservesProvisioning (r : CommandRules) : Prop :=
  ∀ topic schema, commandSchemas.lookup topic = some schema →
    r.isReserved topic = true ∧ r.schemas.find? topic = some schema

section Updates

variable (r : CommandRules) (topic t : String) (s : CommandSchema)

theorem isReserved_reserve : (r.reserve topic s).isReserved t = (r.isReserved t || t == topic) := by
  unfold reserve isReserved
  by_cases hr : r.reserved.contains topic = true
  · rw [if_pos hr]
    by_cases ht : t = topic
    · subst ht
      rw [hr]
      simp
    · simp [beq_eq_false_iff_ne.mpr ht]
  · simp only [hr, Bool.false_eq_true, if_false, List.contains_append, List.contains_cons,
      List.contains_nil, Bool.or_false]

theorem find?_reserve :
    (r.reserve topic s).schemas.find? t = if t = topic then some s else r.schemas.find? t :=
  SchemaRegistry.find?_insert _ _ _ _

@[simp] theorem isReserved_registerSchema : (r.registerSchema topic s).isReserved t = r.isReserved t := by
  unfold registerSchema
  split <;> rfl

/-- Registering a schema leaves the schema of a reserved topic alone. -/
theorem find?_registerSchema_of_reserved (ht : r.isReserved t = true) :
    (r.registerSchema topic s).schemas.find? t = r.schemas.find? t := by
  unfold registerSchema
  split
  · rfl
  · rename_i hfree
    -- the registered topic is not reserved, so it is not `t`
    have hne : t ≠ topic := by
      rintro rfl
      exact hfree ht
    exact (SchemaRegistry.find?_insert _ _ _ _).trans (if_neg hne)

end Updates

/-- Reserving the provisioning commands installs their schemas, whatever was registered
before. -/
theorem reserveProvisioning_reserves (r : CommandRules) : r.reserveProvisioning.ReservesProvisioning := by
  intro topic schema hl
  have hne₁ : wifiScanTopic ≠ wifiConnectTopic := by decide
  have hne₂ : wifiScanTopic ≠ wifiForgetTopic := by decide
  have hne₃ : wifiConnectTopic ≠ wifiForgetTopic := by decide
  unfold reserveProvisioning
  simp only [commandSchemas, List.foldl_cons, List.foldl_nil, isReserved_reserve, find?_reserve]
  simp only [commandSchemas, SchemaRegistry.lookup_cons_ite, List.lookup_nil] at hl
  -- the topic is one of the three, and each is reserved last with its own schema
  by_cases h₁ : topic = wifiScanTopic
  · subst h₁
    simp only [if_true, Option.some.injEq] at hl
    subst hl
    simp [hne₁, hne₂]
  · by_cases h₂ : topic = wifiConnectTopic
    · subst h₂
      simp only [hne₁.symm, if_false, if_true, Option.some.injEq] at hl
      subst hl
      simp [hne₃]
    · by_cases h₃ : topic = wifiForgetTopic
      · subst h₃
        simp only [hne₂.symm, hne₃.symm, if_false, if_true, Option.some.injEq] at hl
        subst hl
        simp
      · simp [h₁, h₂, h₃] at hl

namespace ReservesProvisioning

variable {r : CommandRules}

theorem registerSchema (hr : r.ReservesProvisioning) (topic : String) (s : CommandSchema) :
    (r.registerSchema topic s).ReservesProvisioning := by
  intro t schema hl
  obtain ⟨hres, hfind⟩ := hr t schema hl
  exact ⟨(isReserved_registerSchema r topic t s).trans hres,
    (find?_registerSchema_of_reserved r topic t s hres).trans hfind⟩

theorem registerAll (hr : r.ReservesProvisioning) (schemas : List (String × CommandSchema)) :
    (r.registerAll schemas).ReservesProvisioning := by
  induction schemas generalizing r with
  | nil => exact hr
  | cons x rest ih =>
    unfold CommandRules.registerAll
    rw [List.foldl_cons]
    exact ih (hr.registerSchema x.1 x.2)

/-- Rules that keep the provisioning schemas let every command of the table through. -/
theorem screen_issued (hr : r.ReservesProvisioning) {s s' : ProvisioningState}
    {i : ProvisioningInput} {effs : List Effect} (ht : s.Transition i s' effs) {c : Command}
    (hc : c ∈ effs.filterMap Host.issued) : r.screen c true = .ok () := by
  obtain ⟨e, he, hce⟩ := List.mem_filterMap.mp hc
  cases e with
  | issue topic payload =>
    simp only [Host.issued, Option.some.injEq] at hce
    subst hce
    obtain ⟨-, schema, hl, hv⟩ := ht.issue_passes he
    have hfind := (hr topic schema hl).2
    simp [screen, SchemaRegistry.validate, hfind, hv]
  | startJoinTimer | cancelJoinTimer | adoptAddress _ => simp [Host.issued] at hce

end ReservesProvisioning

end CommandRules

namespace Host

variable (h : Host)

@[simp] theorem dispatch_rules (c : Command) (mayUseReserved : Bool) :
    (h.dispatch c mayUseReserved).2.rules = h.rules := by
  unfold dispatch
  split
  · rfl
  · split <;> rfl

/-- Commands the rules let through can only fail on the link. -/
theorem sendAll_error_link {cs : List Command} (hs : ∀ c ∈ cs, h.rules.screen c true = .ok ())
    {e : BusError} (he : (h.sendAll cs).1 = .error e) : ∃ le, e = .link le := by
  induction cs generalizing h with
  | nil => cases he
  | cons c rest ih =>
    unfold sendAll at he
    have hscreen := hs c List.mem_cons_self
    split at he
    · rename_i e' h₁ heq
      cases he
      unfold dispatch at heq
      rw [hscreen] at heq
      dsimp only at heq
      split at heq
      · rename_i le _
        cases heq
        exact ⟨le, rfl⟩
      · cases heq
    · rename_i h₁ heq
      have hr : h₁.rules = h.rules := by
        have := dispatch_rules h c true
        rw [heq] at this
        exact this
      exact ih h₁ (fun c hc => hr ▸ hs c (List.mem_cons_of_mem _ hc)) he

/-- With the provisioning schemas in place, applying an input fails only because the table
refuses it, the credentials are refused, or the link does not take the command. -/
theorem applyInput_error_cases (hr : h.rules.ReservesProvisioning) (i : ProvisioningInput)
    {e : ProvisioningError} (he : (h.applyInput i).1 = .error e) :
    e = .invalidTransition h.provisioning.name i.action ∨ (∃ reason, e = .invalidCredentials reason) ∨
      ∃ le, e = .bus (.link le) := by
  unfold applyInput at he
  split at he
  · rename_i e' hstep
    cases he
    rcases ProvisioningState.step_error_cases hstep with h₁ | h₁
    · exact .inl h₁
    · exact .inr (.inl h₁)
  · rename_i next effects hstep
    have ht := ProvisioningState.transition_of_step hstep
    split at he
    · rename_i e' h₁ hsend
      cases he
      have hfail : (h.sendAll (effects.filterMap issued)).1 = .error e' := by rw [hsend]
      obtain ⟨le, rfl⟩ := sendAll_error_link h (fun c hc => hr.screen_issued ht hc) hfail
      exact .inr (.inr ⟨le, rfl⟩)
    · cases he

/-- A fold of steps that leave the rules alone leaves them alone. -/
theorem foldl_rules {α : Type} {g : Host → α → Host} (hg : ∀ h a, (g h a).rules = h.rules) :
    ∀ (l : List α) (h : Host), (l.foldl g h).rules = h.rules := by
  intro l
  induction l with
  | nil => intro h; rfl
  | cons a rest ih => intro h; rw [List.foldl_cons, ih, hg]

/-- Starting the provisioning driver reserves its commands; subscribing it to its topics
changes the rules no further. -/
theorem startProvisioning_rules : h.startProvisioning.rules = h.rules.reserveProvisioning := by
  unfold startProvisioning
  dsimp only
  refine (foldl_rules (fun h t => ?_) _ _).trans rfl
  split <;> rfl

/-- Registering a plugin registers the schema of each command it declares, in order. -/
theorem registerPlugin_rules {d : PluginDescriptor} {h' : Host} (hr : h.registerPlugin d = .ok h') :
    h'.rules = h.rules.registerAll d.commands := by
  unfold registerPlugin at hr
  cases hreg : h.registry.register d with
  | error e =>
    rw [hreg] at hr
    cases hr
  | ok r =>
    rw [hreg] at hr
    simp only [bind, Except.bind, pure, Except.pure, Except.ok.injEq] at hr
    subst hr
    rfl

end Host

/-- **The provisioning commands always pass the rules.**  Every command a successful step of
the machine issues is on a WiFi topic and passes the schema `commandSchemas` gives it; for
`wifi/connect` the credential check is at least as strict as that schema.  Starting the
driver reserves these schemas, plugins register theirs one schema at a time, and whatever
is registered before or after the reservation, the rules keep the provisioning schemas: they
let every command of the machine through, and applying an input fails only because the
table refuses it, the credentials are refused, or the link does not take the command. -/
theorem provisioning_commands_pass_reserved_schemas :
    -- the commands of the table pass their own schemas
    (∀ (s s' : ProvisioningState) (i : ProvisioningInput) (effs : List Effect),
      s.step i = .ok (s', effs) → ∀ topic payload, Effect.issue topic payload ∈ effs →
        topic ∈ [wifiScanTopic, wifiConnectTopic, wifiForgetTopic] ∧
          ∃ schema, commandSchemas.lookup topic = some schema ∧ schema.validate payload = .ok ()) ∧
    -- the credential check is at least as strict as the schema of `wifi/connect`
    (∀ ssid password : String, checkCredentials ssid password = .ok () →
      ∃ schema, commandSchemas.lookup wifiConnectTopic = some schema ∧
        schema.validate (Json.object [("ssid", .str ssid), ("password", .str password)]) = .ok ()) ∧
    -- where the rules come from: the driver's start and plugin registration
    (∀ h : Host, h.startProvisioning.rules = h.rules.reserveProvisioning) ∧
    (∀ (h h' : Host) (d : PluginDescriptor), h.registerPlugin d = .ok h' →
      h'.rules = h.rules.registerAll d.commands) ∧
    -- registrations before and after the reservation never loosen or tighten it
    (∀ (r : CommandRules) (before after : List (String × CommandSchema))
      (s s' : ProvisioningState) (i : ProvisioningInput) (effs : List Effect),
      s.step i = .ok (s', effs) → ∀ c ∈ effs.filterMap Host.issued,
        ((r.registerAll before).reserveProvisioning.registerAll after).screen c true = .ok ()) ∧
    -- so applying an input fails only on the table, the credentials or the link
    (∀ (h : Host) (r : CommandRules) (before after : List (String × CommandSchema)),
      h.rules = (r.registerAll before).reserveProvisioning.registerAll after →
      ∀ (i : ProvisioningInput) (e : ProvisioningError), (h.applyInput i).1 = .error e →
        e = .invalidTransition h.provisioning.name i.action ∨
          (∃ reason, e = .invalidCredentials reason) ∨ ∃ le, e = .bus (.link le)) := by
  refine ⟨fun s s' i effs hs topic payload he =>
      (ProvisioningState.transition_of_step hs).issue_passes he,
    fun _ _ hc => connectPayload_passes hc, Host.startProvisioning_rules,
    fun h h' d hr => h.registerPlugin_rules hr, ?_, ?_⟩
  · intro r before after s s' i effs hs c hc
    exact ((CommandRules.reserveProvisioning_reserves _).registerAll after).screen_issued
      (ProvisioningState.transition_of_step hs) hc
  · intro h r before after hrules i e he
    have hr : h.rules.ReservesProvisioning :=
      hrules ▸ (CommandRules.reserveProvisioning_reserves _).registerAll after
    exact h.applyInput_error_cases hr i he

end Tether
