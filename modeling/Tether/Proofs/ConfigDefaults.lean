import Tether.Config
import Tether.Proofs.RecordDecoding
/-!
# Proofs.ConfigDefaults — a settings document fills in what it leaves out

Every section of the settings, and the back-off inside the link section, reads an object
member by member: a field the object has takes the member's value, a field it lacks keeps its
default, and members that name no field are passed over.  `HostConfig.patch` says this of
JSON values, section by section (`fieldOr` per field); the decoders read exactly what it
reads (`HostConfig.reads_decode`), so the settings text of any such object without repeated
keys gives the patched defaults (`HostConfig.ofText_patch`).

The text of every settings value reads back as itself (`HostConfig.ofText_toJson`), provided
its integers fit their widths and its doubles read back from their own text
(`HostConfig.OnWire`).
-/

namespace Tether

open Tether.Json

set_option autoImplicit false

/-! ## Integers of fixed widths -/

theorem reads_u64 : Reads decodeU64 (asNatUpTo (Nat.pow 2 64 - 1)) := reads_unsigned _ _

theorem reads_u32 : Reads decodeU32 (asNatUpTo (Nat.pow 2 32 - 1)) := reads_unsigned _ _

theorem reads_usize : Reads decodeUsize (asNatUpTo (Nat.pow 2 64 - 1)) := reads_unsigned _ _

/-! ## The back-off -/

namespace ReconnectPolicy

/-- The back-off an object gives: each field it has replaced, the others at their defaults. -/
def patch (fs : List (String × Json)) : Option ReconnectPolicy := do
  let d : ReconnectPolicy := {}
  let initialDelayMs ← fieldOr (asNatUpTo (Nat.pow 2 64 - 1)) fs "initialDelayMs" d.initialDelayMs
  let maxDelayMs ← fieldOr (asNatUpTo (Nat.pow 2 64 - 1)) fs "maxDelayMs" d.maxDelayMs
  let factor ← fieldOr asFloat fs "factor" d.factor
  let jitter ← fieldOr asFloat fs "jitter" d.jitter
  let maxAttempts ← fieldOr (asNatUpTo (Nat.pow 2 32 - 1)) fs "maxAttempts" d.maxAttempts
  pure { initialDelayMs, maxDelayMs, factor, jitter, maxAttempts }

theorem reads_decode : Reads ReconnectPolicy.decode (asObject patch) := by
  unfold ReconnectPolicy.decode
  refine Record.reads _ _ _ (fun src fs x hnd h => ?_) (fun src fs p x missing hnd h => ?_)
  all_goals
    simp only [patch, Option.bind_eq_bind, Option.bind_eq_some_iff, Option.pure_def,
      Option.some.injEq] at h
    obtain ⟨a₁, h₁, a₂, h₂, a₃, h₃, a₄, h₄, a₅, h₅, rfl⟩ := h
  · exact (((((checksOn_field_default reads_u64 hnd h₁).map _).seq
      (checksOn_field_default reads_u64 hnd h₂)).seq (checksOn_field_default reads_f64 hnd h₃)).seq
      (checksOn_field_default reads_f64 hnd h₄)).seq (checksOn_field_default reads_u32 hnd h₅)
  · simp only [Record.seq_build, Record.map_build]
    rw [field_build_default (p := p) reads_u64 h₁, field_build_default (p := p) reads_u64 h₂,
      field_build_default (p := p) reads_f64 h₃, field_build_default (p := p) reads_f64 h₄,
      field_build_default (p := p) reads_u32 h₅]
    · rfl
    all_goals simp [Record.field]

end ReconnectPolicy

/-! ## The sections -/

namespace LinkConfig

/-- The link settings an object gives. -/
def patch (fs : List (String × Json)) : Option LinkConfig := do
  let d : LinkConfig := {}
  let clientName ← fieldOr asString fs "clientName" d.clientName
  let connectTimeoutMs ← fieldOr (asNatUpTo (Nat.pow 2 64 - 1)) fs "connectTimeoutMs" d.connectTimeoutMs
  let heartbeatIntervalMs ←
    fieldOr (asNatUpTo (Nat.pow 2 64 - 1)) fs "heartbeatIntervalMs" d.heartbeatIntervalMs
  let idleTimeoutMs ← fieldOr (asNatUpTo (Nat.pow 2 64 - 1)) fs "idleTimeoutMs" d.idleTimeoutMs
  let replyTimeoutMs ← fieldOr (asNatUpTo (Nat.pow 2 64 - 1)) fs "replyTimeoutMs" d.replyTimeoutMs
  let outboundQueue ← fieldOr (asNatUpTo (Nat.pow 2 64 - 1)) fs "outboundQueue" d.outboundQueue
  let backoff ← fieldOr (asObject ReconnectPolicy.patch) fs "backoff" d.backoff
  pure ⟨clientName, connectTimeoutMs, heartbeatIntervalMs, idleTimeoutMs, replyTimeoutMs,
    outboundQueue, backoff⟩

theorem reads_decode : Reads LinkConfig.decode (asObject patch) := by
  unfold LinkConfig.decode
  refine Record.reads _ _ _ (fun src fs x hnd h => ?_) (fun src fs p x missing hnd h => ?_)
  all_goals
    simp only [patch, Option.bind_eq_bind, Option.bind_eq_some_iff, Option.pure_def,
      Option.some.injEq] at h
    obtain ⟨a₁, h₁, a₂, h₂, a₃, h₃, a₄, h₄, a₅, h₅, a₆, h₆, a₇, h₇, rfl⟩ := h
  · exact (((((((checksOn_field_default reads_string hnd h₁).map _).seq
      (checksOn_field_default reads_u64 hnd h₂)).seq (checksOn_field_default reads_u64 hnd h₃)).seq
      (checksOn_field_default reads_u64 hnd h₄)).seq (checksOn_field_default reads_u64 hnd h₅)).seq
      (checksOn_field_default reads_usize hnd h₆)).seq
      (checksOn_field_default ReconnectPolicy.reads_decode hnd h₇)
  · simp only [Record.seq_build, Record.map_build]
    rw [field_build_default (p := p) reads_string h₁, field_build_default (p := p) reads_u64 h₂,
      field_build_default (p := p) reads_u64 h₃, field_build_default (p := p) reads_u64 h₄,
      field_build_default (p := p) reads_u64 h₅, field_build_default (p := p) reads_usize h₆,
      field_build_default (p := p) ReconnectPolicy.reads_decode h₇]
    · rfl
    all_goals simp [Record.field]

end LinkConfig

namespace BusConfig

/-- The bus settings an object gives. -/
def patch (fs : List (String × Json)) : Option BusConfig := do
  let subscriberBuffer ← fieldOr (asNatUpTo (Nat.pow 2 64 - 1)) fs "subscriberBuffer" 32
  pure { subscriberBuffer }

theorem reads_decode : Reads BusConfig.decode (asObject patch) := by
  unfold BusConfig.decode
  refine Record.reads _ _ _ (fun src fs x hnd h => ?_) (fun src fs p x missing hnd h => ?_)
  all_goals
    simp only [patch, Option.bind_eq_bind, Option.bind_eq_some_iff, Option.pure_def,
      Option.some.injEq] at h
    obtain ⟨a₁, h₁, rfl⟩ := h
  · exact (checksOn_field_default reads_usize hnd h₁).map _
  · simp only [Record.map_build]
    rw [field_build_default (p := p) reads_usize h₁]
    · rfl
    · simp [Record.field]

end BusConfig

namespace ProvisioningConfig

/-- The provisioning settings an object gives. -/
def patch (fs : List (String × Json)) : Option ProvisioningConfig := do
  let d : ProvisioningConfig := {}
  let joinTimeoutMs ← fieldOr (asNatUpTo (Nat.pow 2 64 - 1)) fs "joinTimeoutMs" d.joinTimeoutMs
  let portalSsidPrefix ← fieldOr asString fs "portalSsidPrefix" d.portalSsidPrefix
  let portalPassphrase ← fieldOr (asOption asString) fs "portalPassphrase" none
  let portalUrl ← fieldOr asString fs "portalUrl" d.portalUrl
  pure { joinTimeoutMs, portalSsidPrefix, portalPassphrase, portalUrl }

theorem reads_decode : Reads ProvisioningConfig.decode (asObject patch) := by
  unfold ProvisioningConfig.decode
  refine Record.reads _ _ _ (fun src fs x hnd h => ?_) (fun src fs p x missing hnd h => ?_)
  all_goals
    simp only [patch, Option.bind_eq_bind, Option.bind_eq_some_iff, Option.pure_def,
      Option.some.injEq] at h
    obtain ⟨a₁, h₁, a₂, h₂, a₃, h₃, a₄, h₄, rfl⟩ := h
  · exact ((((checksOn_field_default reads_u64 hnd h₁).map _).seq
      (checksOn_field_default reads_string hnd h₂)).seq
      (checksOn_field_default reads_string.option hnd h₃)).seq
      (checksOn_field_default reads_string hnd h₄)
  · simp only [Record.seq_build, Record.map_build]
    rw [field_build_default (p := p) reads_u64 h₁, field_build_default (p := p) reads_string h₂,
      field_build_default (p := p) reads_string.option h₃,
      field_build_default (p := p) reads_string h₄]
    · rfl
    all_goals simp [Record.field]

end ProvisioningConfig

namespace AutostaleRule

/-- The rule an object gives: both fields are required. -/
def patch (fs : List (String × Json)) : Option AutostaleRule := do
  let pattern ← fieldReq asString fs "pattern"
  let afterMs ← fieldReq (asNatUpTo (Nat.pow 2 64 - 1)) fs "afterMs"
  pure { pattern, afterMs }

theorem reads_decode : Reads AutostaleRule.decode (asObject patch) := by
  unfold AutostaleRule.decode
  refine Record.reads _ _ _ (fun src fs x hnd h => ?_) (fun src fs p x missing hnd h => ?_)
  all_goals
    simp only [patch, Option.bind_eq_bind, Option.bind_eq_some_iff, Option.pure_def,
      Option.some.injEq] at h
    obtain ⟨a₁, h₁, a₂, h₂, rfl⟩ := h
  · exact ((checksOn_field_required reads_string hnd h₁).map _).seq
      (checksOn_field_required reads_u64 hnd h₂)
  · simp only [Record.seq_build, Record.map_build]
    rw [field_build_required (p := p) reads_string h₁, field_build_required (p := p) reads_u64 h₂]
    · rfl
    all_goals simp [Record.field]

end AutostaleRule

namespace SessionConfig

/-- The session settings an object gives. -/
def patch (fs : List (String × Json)) : Option SessionConfig := do
  let d : SessionConfig := {}
  let expiryMs ← fieldOr (asNatUpTo (Nat.pow 2 64 - 1)) fs "expiryMs" d.expiryMs
  let housekeepingIntervalMs ←
    fieldOr (asNatUpTo (Nat.pow 2 64 - 1)) fs "housekeepingIntervalMs" d.housekeepingIntervalMs
  let autostale ← fieldOr (asList (asObject AutostaleRule.patch)) fs "autostale" []
  pure { expiryMs, housekeepingIntervalMs, autostale }

theorem reads_decode : Reads SessionConfig.decode (asObject patch) := by
  unfold SessionConfig.decode
  refine Record.reads _ _ _ (fun src fs x hnd h => ?_) (fun src fs p x missing hnd h => ?_)
  all_goals
    simp only [patch, Option.bind_eq_bind, Option.bind_eq_some_iff, Option.pure_def,
      Option.some.injEq] at h
    obtain ⟨a₁, h₁, a₂, h₂, a₃, h₃, rfl⟩ := h
  · exact (((checksOn_field_default reads_u64 hnd h₁).map _).seq
      (checksOn_field_default reads_u64 hnd h₂)).seq
      (checksOn_field_default AutostaleRule.reads_decode.list hnd h₃)
  · simp only [Record.seq_build, Record.map_build]
    rw [field_build_default (p := p) reads_u64 h₁, field_build_default (p := p) reads_u64 h₂,
      field_build_default (p := p) AutostaleRule.reads_decode.list h₃]
    · rfl
    all_goals simp [Record.field]

end SessionConfig

namespace HostConfig

/-- The settings an object gives: each section it has read from its member, the others at
their defaults. -/
def patch (fs : List (String × Json)) : Option HostConfig := do
  let transport ← fieldOr (asObject LinkConfig.patch) fs "transport" {}
  let bus ← fieldOr (asObject BusConfig.patch) fs "bus" {}
  let provisioning ← fieldOr (asObject ProvisioningConfig.patch) fs "provisioning" {}
  let session ← fieldOr (asObject SessionConfig.patch) fs "session" {}
  pure { transport, bus, provisioning, session }

theorem reads_decode : Reads HostConfig.decode (asObject patch) := by
  unfold HostConfig.decode
  refine Record.reads _ _ _ (fun src fs x hnd h => ?_) (fun src fs p x missing hnd h => ?_)
  all_goals
    simp only [patch, Option.bind_eq_bind, Option.bind_eq_some_iff, Option.pure_def,
      Option.some.injEq] at h
    obtain ⟨a₁, h₁, a₂, h₂, a₃, h₃, a₄, h₄, rfl⟩ := h
  · exact ((((checksOn_field_default LinkConfig.reads_decode hnd h₁).map _).seq
      (checksOn_field_default BusConfig.reads_decode hnd h₂)).seq
      (checksOn_field_default ProvisioningConfig.reads_decode hnd h₃)).seq
      (checksOn_field_default SessionConfig.reads_decode hnd h₄)
  · simp only [Record.seq_build, Record.map_build]
    rw [field_build_default (p := p) LinkConfig.reads_decode h₁,
      field_build_default (p := p) BusConfig.reads_decode h₂,
      field_build_default (p := p) ProvisioningConfig.reads_decode h₃,
      field_build_default (p := p) SessionConfig.reads_decode h₄]
    · rfl
    all_goals simp [Record.field]

/-- The settings text of an object without repeated keys, whose numbers read back and which
nests no deeper than the reader allows, gives the defaults with the object's fields put in,
section by section. -/
theorem ofText_patch {d : Json} {c : HostConfig} (h : asObject patch d = some c)
    (hall : All NumberOnWire d) (hdepth : nesting d ≤ depthLimit) :
    HostConfig.ofText (compact d) = .ok c := by
  rw [HostConfig.ofText, reads_decode.decodeText h hall hdepth]
  rfl

end HostConfig

/-! ## Settings read back from their text -/

/-- Link settings whose integers fit the widths they are read at and whose doubles read back
from their own text. -/
structure LinkConfig.OnWire (c : LinkConfig) : Prop where
  connectTimeout : c.connectTimeoutMs < 2 ^ 64
  heartbeatInterval : c.heartbeatIntervalMs < 2 ^ 64
  idleTimeout : c.idleTimeoutMs < 2 ^ 64
  replyTimeout : c.replyTimeoutMs < 2 ^ 64
  outboundQueue : c.outboundQueue < 2 ^ 64
  initialDelay : c.backoff.initialDelayMs < 2 ^ 64
  maxDelay : c.backoff.maxDelayMs < 2 ^ 64
  maxAttempts : c.backoff.maxAttempts < 2 ^ 32
  factor : (Number.float c.backoff.factor).ReadsBack
  jitter : (Number.float c.backoff.jitter).ReadsBack

/-- Settings whose integers fit the widths they are read at and whose doubles read back from
their own text. -/
structure HostConfig.OnWire (c : HostConfig) : Prop where
  transport : c.transport.OnWire
  subscriberBuffer : c.bus.subscriberBuffer < 2 ^ 64
  joinTimeout : c.provisioning.joinTimeoutMs < 2 ^ 64
  expiry : c.session.expiryMs < 2 ^ 64
  housekeepingInterval : c.session.housekeepingIntervalMs < 2 ^ 64
  autostale : ∀ r ∈ c.session.autostale, r.afterMs < 2 ^ 64

theorem asNatUpTo_ofNat {n limit : Nat} (h : n ≤ limit) : asNatUpTo limit (Json.ofNat n) = some n := by
  simp [asNatUpTo, Json.ofNat, h]

theorem asNatUpTo_u64 {n : Nat} (h : n < 2 ^ 64) :
    asNatUpTo (Nat.pow 2 64 - 1) (Json.ofNat n) = some n :=
  asNatUpTo_ofNat (by rw [Nat.pow_eq]; omega)

theorem ReconnectPolicy.patch_toJson {b : ReconnectPolicy} (h₁ : b.initialDelayMs < 2 ^ 64)
    (h₂ : b.maxDelayMs < 2 ^ 64) (h₅ : b.maxAttempts < 2 ^ 32) :
    asObject ReconnectPolicy.patch b.toJson = some b := by
  rw [ReconnectPolicy.toJson, asObject_object (by simp) fun ms h => by simp only [patch, fieldOr, h]]
  simp [patch, fieldOr, lookup_cons_ite, asNatUpTo_u64 h₁, asNatUpTo_u64 h₂,
    asNatUpTo_ofNat (show b.maxAttempts ≤ Nat.pow 2 32 - 1 by rw [Nat.pow_eq]; omega), asFloat,
    Json.ofFloat, Number.toFloat]

theorem LinkConfig.patch_toJson {c : LinkConfig} (hc : c.OnWire) :
    asObject LinkConfig.patch c.toJson = some c := by
  rw [LinkConfig.toJson, asObject_object (by simp) fun ms h => by simp only [patch, fieldOr, h]]
  simp [patch, fieldOr, lookup_cons_ite, asString, asNatUpTo_u64 hc.connectTimeout,
    asNatUpTo_u64 hc.heartbeatInterval, asNatUpTo_u64 hc.idleTimeout,
    asNatUpTo_u64 hc.replyTimeout, asNatUpTo_u64 hc.outboundQueue,
    ReconnectPolicy.patch_toJson hc.initialDelay hc.maxDelay hc.maxAttempts]

/-- A sequence of the values of a list reads back as the list when every value does. -/
theorem asList_map {α β : Type} {read : Json → Option α} {f : β → Json} :
    ∀ (xs : List α) (g : α → β), (∀ x ∈ xs, read (f (g x)) = some x) →
      asList read (.arr (xs.map fun x => f (g x))) = some xs
  | [], _, _ => rfl
  | x :: rest, g, h => by
    have hx := h x List.mem_cons_self
    have hrest := asList_map rest g fun y hy => h y (List.mem_cons_of_mem x hy)
    simp only [asList, List.map_cons, List.mapM_cons, hx] at hrest ⊢
    simp [hrest]

theorem AutostaleRule.patch_toJson {r : AutostaleRule} (h : r.afterMs < 2 ^ 64) :
    asObject AutostaleRule.patch
      (Json.object [("pattern", .str r.pattern), ("afterMs", .ofNat r.afterMs)]) = some r := by
  rw [asObject_object (by simp) fun ms h => by simp only [patch, fieldReq, h]]
  simp [patch, fieldReq, lookup_cons_ite, asString, asNatUpTo_u64 h]

theorem BusConfig.patch_toJson {b : BusConfig} (h : b.subscriberBuffer < 2 ^ 64) :
    asObject BusConfig.patch (Json.object [("subscriberBuffer", .ofNat b.subscriberBuffer)]) =
      some b := by
  rw [asObject_object (by simp) fun ms h => by simp only [patch, fieldOr, h]]
  simp [patch, fieldOr, asNatUpTo_u64 h]

theorem ProvisioningConfig.patch_toJson {c : ProvisioningConfig} (h : c.joinTimeoutMs < 2 ^ 64) :
    asObject ProvisioningConfig.patch
      (Json.object [("joinTimeoutMs", .ofNat c.joinTimeoutMs),
        ("portalSsidPrefix", .str c.portalSsidPrefix),
        ("portalPassphrase", Json.ofOption .str c.portalPassphrase),
        ("portalUrl", .str c.portalUrl)]) = some c := by
  rw [asObject_object (by simp) fun ms h => by simp only [patch, fieldOr, h]]
  obtain ⟨joinTimeoutMs, portalSsidPrefix, portalPassphrase, portalUrl⟩ := c
  cases portalPassphrase <;>
    simp [patch, fieldOr, lookup_cons_ite, asString, asOption, Json.ofOption, asNatUpTo_u64 h]

theorem SessionConfig.patch_toJson {c : SessionConfig} (h₁ : c.expiryMs < 2 ^ 64)
    (h₂ : c.housekeepingIntervalMs < 2 ^ 64) (h₃ : ∀ r ∈ c.autostale, r.afterMs < 2 ^ 64) :
    asObject SessionConfig.patch
      (Json.object [("expiryMs", .ofNat c.expiryMs),
        ("housekeepingIntervalMs", .ofNat c.housekeepingIntervalMs),
        ("autostale", .arr (c.autostale.map fun r =>
          Json.object [("pattern", .str r.pattern), ("afterMs", .ofNat r.afterMs)]))]) =
        some c := by
  have hrules := @asList_map _ _ (asObject AutostaleRule.patch)
    (fun r => Json.object [("pattern", .str r.pattern), ("afterMs", .ofNat r.afterMs)])
    c.autostale id fun r hr => AutostaleRule.patch_toJson (h₃ r hr)
  simp only [id] at hrules
  rw [asObject_object (by simp) fun ms h => by simp only [patch, fieldOr, h]]
  simp [patch, fieldOr, lookup_cons_ite, asNatUpTo_u64 h₁, asNatUpTo_u64 h₂, hrules]

theorem HostConfig.patch_toJson {c : HostConfig} (hc : c.OnWire) :
    asObject HostConfig.patch c.toJson = some c := by
  rw [HostConfig.toJson, asObject_object (by simp) fun ms h => by simp only [patch, fieldOr, h]]
  simp [patch, fieldOr, lookup_cons_ite, LinkConfig.patch_toJson hc.transport,
    BusConfig.patch_toJson hc.subscriberBuffer, ProvisioningConfig.patch_toJson hc.joinTimeout,
    SessionConfig.patch_toJson hc.expiry hc.housekeepingInterval hc.autostale]

theorem ReconnectPolicy.numbers_toJson {b : ReconnectPolicy} (h₁ : b.initialDelayMs < 2 ^ 64)
    (h₂ : b.maxDelayMs < 2 ^ 64) (h₅ : b.maxAttempts < 2 ^ 32)
    (hf : (Number.float b.factor).ReadsBack) (hj : (Number.float b.jitter).ReadsBack) :
    All NumberOnWire b.toJson :=
  all_object (fun _ => trivial) (by
    simp [all_ofNat h₁, all_ofNat h₂, all_ofNat (show b.maxAttempts < 2 ^ 64 by omega),
      all_ofFloat hf, all_ofFloat hj])

theorem LinkConfig.numbers_toJson {c : LinkConfig} (hc : c.OnWire) : All NumberOnWire c.toJson :=
  all_object (fun _ => trivial) (by
    simp [all_str, all_ofNat hc.connectTimeout, all_ofNat hc.heartbeatInterval,
      all_ofNat hc.idleTimeout, all_ofNat hc.replyTimeout, all_ofNat hc.outboundQueue,
      ReconnectPolicy.numbers_toJson hc.initialDelay hc.maxDelay hc.maxAttempts hc.factor hc.jitter])

theorem HostConfig.numbers_toJson {c : HostConfig} (hc : c.OnWire) : All NumberOnWire c.toJson := by
  have hrule : ∀ r ∈ c.session.autostale, All NumberOnWire
      (Json.object [("pattern", .str r.pattern), ("afterMs", .ofNat r.afterMs)]) :=
    fun r hr => all_object (fun _ => trivial) (by simp [all_str, all_ofNat (hc.autostale r hr)])
  have hrules : All NumberOnWire (.arr (c.session.autostale.map fun r =>
      Json.object [("pattern", .str r.pattern), ("afterMs", .ofNat r.afterMs)])) :=
    ⟨trivial, allItems_of_forall _ fun j hj => by
      obtain ⟨r, hr, rfl⟩ := List.mem_map.mp hj
      exact hrule r hr⟩
  have hpass : All NumberOnWire (Json.ofOption .str c.provisioning.portalPassphrase) := by
    cases c.provisioning.portalPassphrase <;> trivial
  refine all_object (fun _ => trivial) ?_
  simp only [List.mem_cons, List.not_mem_nil, or_false, forall_eq_or_imp, forall_eq]
  refine ⟨LinkConfig.numbers_toJson hc.transport, ?_, ?_, ?_⟩
  · exact all_object (fun _ => trivial) (by simp [all_ofNat hc.subscriberBuffer])
  · exact all_object (fun _ => trivial) (by simp [all_str, all_ofNat hc.joinTimeout, hpass])
  · exact all_object (fun _ => trivial) (by
      simp [all_ofNat hc.expiry, all_ofNat hc.housekeepingInterval, hrules])

/-- Settings nest four levels deep: a rule inside the list inside the session section. -/
theorem HostConfig.nesting_toJson (c : HostConfig) : nesting c.toJson ≤ 4 := by
  -- an object of scalars nests one level
  have hflat : ∀ fs : List (String × Json), (∀ kv ∈ fs, nesting kv.2 = 0) →
      nesting (Json.object fs) ≤ 1 :=
    fun fs h => nesting_object_le fun kv hkv => (h kv hkv).le
  have hbackoff : nesting c.transport.backoff.toJson ≤ 1 :=
    hflat _ (by simp [nesting_ofNat, nesting_ofFloat])
  have htransport : nesting c.transport.toJson ≤ 2 :=
    nesting_object_le (by simp [nesting, nesting_ofNat, hbackoff])
  have hitems : nestingItems (c.session.autostale.map fun r =>
      Json.object [("pattern", .str r.pattern), ("afterMs", .ofNat r.afterMs)]) ≤ 1 :=
    nestingItems_le _ fun j hj => by
      obtain ⟨r, -, rfl⟩ := List.mem_map.mp hj
      exact hflat _ (by simp [nesting, nesting_ofNat])
  have hpass : nesting (Json.ofOption .str c.provisioning.portalPassphrase) = 0 := by
    cases c.provisioning.portalPassphrase <;> rfl
  have hbus := hflat [("subscriberBuffer", .ofNat c.bus.subscriberBuffer)] (by simp [nesting_ofNat])
  have hprov := hflat [("joinTimeoutMs", .ofNat c.provisioning.joinTimeoutMs),
    ("portalSsidPrefix", .str c.provisioning.portalSsidPrefix),
    ("portalPassphrase", Json.ofOption .str c.provisioning.portalPassphrase),
    ("portalUrl", .str c.provisioning.portalUrl)] (by simp [nesting, nesting_ofNat, hpass])
  have hsession : nesting (Json.object [("expiryMs", .ofNat c.session.expiryMs),
      ("housekeepingIntervalMs", .ofNat c.session.housekeepingIntervalMs),
      ("autostale", .arr (c.session.autostale.map fun r =>
        Json.object [("pattern", .str r.pattern), ("afterMs", .ofNat r.afterMs)]))]) ≤ 2 + 1 :=
    nesting_object_le (by simp only [List.mem_cons, List.not_mem_nil, or_false, forall_eq_or_imp,
      forall_eq, nesting_ofNat, nesting]; omega)
  refine nesting_object_le (n := 3) ?_
  simp only [List.mem_cons, List.not_mem_nil, or_false, forall_eq_or_imp, forall_eq]
  omega

/-- The text of settings the wire carries reads back as those settings. -/
theorem HostConfig.ofText_toJson {c : HostConfig} (hc : c.OnWire) :
    HostConfig.ofText (compact c.toJson) = .ok c :=
  HostConfig.ofText_patch (HostConfig.patch_toJson hc) (HostConfig.numbers_toJson hc)
    (le_trans (HostConfig.nesting_toJson c) (by decide))

end Tether
