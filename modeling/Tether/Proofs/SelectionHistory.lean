import Tether.Proofs.StoreAgreement
import Tether.Proofs.LastSelection
/-!
# Proofs.SelectionHistory — the saved selection follows the directory's history

The directory writes its selection to the store in two places only: an activation saves it,
and so does an endpoint update of the active device; forgetting the device the store names
removes it.  What any operation does to the selection is therefore decided by the operation,
the active mark it finds and the selection it finds (`DirOp.select`), whenever the times it
carries are ones a timestamp can hold (`DirOp.ValidTimes`) — every store takes the last
session's key, so no save or removal fails:

* one operation moves the selection by `DirOp.select` (`lastSelected_apply`);
* a run moves it by the fold of those decisions along the active marks the run passes
  through (`lastSelected_run`), and after an activation the selection names the activated
  device until that device is forgotten or another one activated (`run_activate_names`).

Expiry and activation act on the sessions alone:

* `expireStale` keeps exactly the sessions that have not expired (`mem_expireStale`), answers
  the ids of the ones it removed (`mem_expireStale_ids`), and keeps the active mark exactly
  when the active session stays (`expireStale_active_filter`);
* after an activation, the activated device's session is the only one reached through its
  endpoint (`activate_endpoint_iff`).
-/

namespace Tether

set_option autoImplicit false

/-! ## Removing the last session -/

namespace ConfigStore

/-- A store whose last session was removed has none. -/
theorem loadLastSession_of_clear {s s' : ConfigStore} (h : s.clearLastSession = .ok s') :
    s'.loadLastSession = .ok none := by
  have hs' : s' = s.erase lastSessionKey := deleteKey_ok h
  have hfit : s'.kind.Fits lastSessionKey := fits_lastSessionKey _
  have hview : s'.view lastSessionKey = none := by rw [hs', view_erase, if_pos rfl]
  simp [loadLastSession, loadValue, loadRaw_of_fits hfit, hview, bind, Except.bind]

end ConfigStore

/-! ## What each operation does to the selection -/

namespace DirOp

/-- Every time an operation carries is one a timestamp can hold. -/
def ValidTimes : DirOp → Prop
  | .discovered _ _ now | .activate _ _ now | .touch _ now | .updateEndpoint _ _ now
  | .expireStale now => now.Valid
  | .deactivate | .close | .forget _ | .setLink _ _ => True

/-- The selection an operation leaves, from the active mark and the selection it finds: an
activation selects, an endpoint update of the active device selects again, forgetting the
selected device clears the selection, and nothing else touches it. -/
def select (active : Option DeviceId) (sel : Option LastSession) : DirOp → Option LastSession
  | .activate id endpoint now => some { deviceId := id, endpoint, savedAt := now }
  | .updateEndpoint id endpoint now =>
    if active = some id then some { deviceId := id, endpoint, savedAt := now } else sel
  | .forget id => if sel.any (·.deviceId == id) then none else sel
  | _ => sel

/-- An operation that activates no device and does not forget `id`. -/
def Spares (id : DeviceId) (op : DirOp) : Prop :=
  (∀ id' endpoint now, op ≠ .activate id' endpoint now) ∧ op ≠ .forget id

/-- An operation that spares `id` keeps a selection naming `id` while the active mark is
`id` or none: an endpoint update saves only for the active device. -/
theorem Spares.select_names {id : DeviceId} {op : DirOp} (hop : op.Spares id)
    {active : Option DeviceId} {sel : Option LastSession}
    (hmark : active = none ∨ active = some id) (hsel : sel.map (·.deviceId) = some id) :
    (op.select active sel).map (·.deviceId) = some id := by
  obtain ⟨last, hlast, hname⟩ := Option.map_eq_some_iff.mp hsel
  subst hlast
  cases op with
  | activate id' endpoint now => exact absurd rfl (hop.1 id' endpoint now)
  | updateEndpoint id' endpoint now =>
    simp only [select]
    split
    · rename_i ha
      rcases hmark with h | h <;> rw [h] at ha
      · cases ha
      · cases ha
        rfl
    · simp [hname]
  | forget id' =>
    have hne : id' ≠ id := fun h => hop.2 (by rw [h])
    simp [select, hname, Ne.symm hne]
  | discovered | deactivate | close | setLink | touch | expireStale => simp [select, hname]

end DirOp

/-! ## The expiry window -/

/-- The window of an expiry given in milliseconds: the expiry itself up to `2^63 - 1`
milliseconds, 5200 weeks beyond. -/
theorem Span.expiryWindow_ofMillis (ms : Nat) :
    (Span.ofMillis ms).expiryWindow =
      if ms ≤ 9223372036854775807 then Span.ofMillis ms else ⟨5200 * 7 * 86400, 0⟩ := by
  unfold Span.expiryWindow Span.deltaMax Span.lt Span.ofMillis
  by_cases hfit : ms ≤ 9223372036854775807
  · rw [if_pos hfit, if_neg (by simp only [decide_eq_true_eq]; omega)]
  · rw [if_neg hfit, if_pos (by simp only [decide_eq_true_eq]; omega)]


namespace SessionDirectory

/-- The selection a run leaves, each operation deciding from the active mark it finds. -/
def selectionAfter (d : SessionDirectory) (sel : Option LastSession) :
    List DirOp → Option LastSession
  | [] => sel
  | op :: ops => (d.apply op).selectionAfter (op.select d.active sel) ops

section Selection

variable (d : SessionDirectory)

/-- The selection is read from the store alone. -/
theorem lastSelected_of_store {d' : SessionDirectory} (h : d'.store = d.store) :
    d'.lastSelected = d.lastSelected := by
  unfold lastSelected
  rw [h]

@[simp] theorem discovered_store (id : DeviceId) (endpoint : Endpoint) (now : Instant) :
    (d.discovered id endpoint now).2.store = d.store := by
  unfold discovered
  split <;> rfl

/-- Saving a selection at a time a timestamp can hold makes it the selection. -/
theorem persist_lastSelected {now : Instant} (hv : now.Valid) (id : DeviceId)
    (endpoint : Endpoint) :
    (d.persist id endpoint now).lastSelected = some { deviceId := id, endpoint, savedAt := now } := by
  have hsave : d.store.saveLastSession { deviceId := id, endpoint, savedAt := now } =
      .ok (d.store.insert lastSessionKey
        (Json.renderPretty ({ deviceId := id, endpoint, savedAt := now } : LastSession).written)) :=
    ConfigStore.saveRaw_of_fits (fits_lastSessionKey _) _
  unfold persist lastSelected
  rw [hsave]
  dsimp only
  rw [ConfigStore.loadLastSession_of_save hv hsave]

theorem activate_lastSelected {now : Instant} (hv : now.Valid) (id : DeviceId)
    (endpoint : Endpoint) :
    (d.activate id endpoint now).lastSelected =
      some { deviceId := id, endpoint, savedAt := now } :=
  persist_lastSelected _ hv id endpoint

/-- Forgetting a device clears the selection that names it, and only that one. -/
theorem forget_lastSelected (id : DeviceId) :
    (d.forget id).lastSelected =
      if d.lastSelected.any (·.deviceId == id) then none else d.lastSelected := by
  have hclear : d.store.clearLastSession = .ok (d.store.erase lastSessionKey) :=
    ConfigStore.deleteKey_of_fits (fits_lastSessionKey _)
  -- the directory `forget` consults has the store of `d`, so it finds `d`'s selection
  have hsame : ∀ x y, ({ d with sessions := x, active := y } : SessionDirectory).lastSelected =
      d.lastSelected := fun _ _ => rfl
  cases hsel : d.lastSelected with
  | none =>
    have hkeep : (d.forget id).store = d.store := by simp only [forget, hsame, hsel]
    simp only [lastSelected_of_store d hkeep, hsel, Option.any_none, Bool.false_eq_true, if_false]
  | some last =>
    by_cases hid : (last.deviceId == id) = true
    · have hgone : (d.forget id).store = d.store.erase lastSessionKey := by
        simp only [forget, hsame, hsel, hid, if_true, hclear]
      simp only [Option.any_some, hid, if_true]
      unfold lastSelected
      rw [hgone, ConfigStore.loadLastSession_of_clear hclear]
    · have hkeep : (d.forget id).store = d.store := by
        simp only [forget, hsame, hsel, hid, Bool.false_eq_true, if_false]
      simp only [lastSelected_of_store d hkeep, hsel, Option.any_some, hid, Bool.false_eq_true,
        if_false]

/-- An endpoint update saves the selection again exactly when the device is active. -/
theorem updateEndpoint_lastSelected (hd : d.WellFormed) {now : Instant} (hv : now.Valid)
    (id : DeviceId) (endpoint : Endpoint) :
    (d.updateEndpoint id endpoint now).lastSelected =
      if d.active = some id then some { deviceId := id, endpoint, savedAt := now }
      else d.lastSelected := by
  unfold updateEndpoint
  split
  · rename_i hnone
    -- an unknown device is not the active one: the active one is stored
    have hinactive : d.active ≠ some id := by
      intro ha
      obtain ⟨s, hs⟩ := hd.get?_active ha
      rw [hs] at hnone
      cases hnone
    rw [if_neg hinactive]
  · dsimp only
    by_cases ha : d.active = some id
    · rw [if_pos (by simp [ha]), if_pos ha, persist_lastSelected _ hv]
    · rw [if_neg (by simpa using ha), if_neg ha]
      exact lastSelected_of_store d rfl

end Selection

/-! ## The selection along a run -/

section Run

variable {d : SessionDirectory}

/-- One operation moves the selection as `DirOp.select` decides. -/
theorem lastSelected_apply (hd : d.WellFormed) {op : DirOp} (hv : op.ValidTimes) :
    (d.apply op).lastSelected = op.select d.active d.lastSelected := by
  cases op with
  | discovered id endpoint now => exact lastSelected_of_store d (discovered_store d id endpoint now)
  | activate id endpoint now => exact activate_lastSelected d hv id endpoint
  | deactivate => exact lastSelected_of_store d (deactivate_store d)
  | close => exact lastSelected_of_store d (close_store d)
  | forget id => exact forget_lastSelected d id
  | setLink id link => exact lastSelected_of_store d (setLink_store d id link)
  | touch id now => exact lastSelected_of_store d rfl
  | updateEndpoint id endpoint now => exact updateEndpoint_lastSelected d hd hv id endpoint
  | expireStale now => exact lastSelected_of_store d (expireStale_store d now)

/-- A run moves the selection by the decisions of its operations, each reading the active
mark the run has reached. -/
theorem lastSelected_run (hd : d.WellFormed) {ops : List DirOp}
    (hv : ∀ op ∈ ops, op.ValidTimes) :
    (d.run ops).lastSelected = d.selectionAfter d.lastSelected ops := by
  induction ops generalizing d with
  | nil => rfl
  | cons op ops ih =>
    have hstep := lastSelected_apply hd (hv op List.mem_cons_self)
    calc ((d.apply op).run ops).lastSelected
        = (d.apply op).selectionAfter (d.apply op).lastSelected ops :=
          ih (hd.apply op) fun o ho => hv o (List.mem_cons_of_mem op ho)
      _ = (d.apply op).selectionAfter (op.select d.active d.lastSelected) ops := by rw [hstep]

/-- No operation but an activation marks a device active: each keeps the mark or drops it. -/
theorem apply_active_of_not_activate {op : DirOp}
    (hop : ∀ id endpoint now, op ≠ .activate id endpoint now) :
    (d.apply op).active = none ∨ (d.apply op).active = d.active := by
  cases op with
  | activate id endpoint now => exact absurd rfl (hop id endpoint now)
  | discovered id endpoint now => exact .inr (discovered_active d id endpoint now)
  | deactivate =>
    dsimp only [apply]
    unfold deactivate
    split
    · exact .inr rfl
    · exact .inl rfl
  | close =>
    dsimp only [apply]
    unfold close
    split
    · exact .inr rfl
    · exact .inl rfl
  | forget id =>
    rw [apply, forget_active]
    split
    · exact .inl rfl
    · exact .inr rfl
  | setLink id link => exact .inr rfl
  | touch id now => exact .inr rfl
  | updateEndpoint id endpoint now =>
    refine .inr ?_
    dsimp only [apply]
    unfold updateEndpoint
    split
    · rfl
    · dsimp only
      split
      · rw [persist_active, modify_active]
      · rfl
  | expireStale now =>
    rw [apply, expireStale_active]
    split
    · exact .inl rfl
    · exact .inr rfl

/-- A run that activates no device and does not forget `id` keeps a selection naming `id`,
from a directory whose active mark is `id` or none. -/
theorem run_names_of_spared (hd : d.WellFormed) {id : DeviceId} {ops : List DirOp}
    (hv : ∀ op ∈ ops, op.ValidTimes) (hq : ∀ op ∈ ops, op.Spares id)
    (hmark : d.active = none ∨ d.active = some id)
    (hsel : d.lastSelected.map (·.deviceId) = some id) :
    (d.run ops).lastSelected.map (·.deviceId) = some id := by
  induction ops generalizing d with
  | nil => exact hsel
  | cons op ops ih =>
    have hop := hq op List.mem_cons_self
    refine ih (hd.apply op) (fun o ho => hv o (List.mem_cons_of_mem op ho))
      (fun o ho => hq o (List.mem_cons_of_mem op ho)) ?_ ?_
    · -- the mark is dropped or kept, never moved to another device
      rcases apply_active_of_not_activate hop.1 with h | h
      · exact .inl h
      · rw [h]
        exact hmark
    · rw [lastSelected_apply hd (hv op List.mem_cons_self)]
      exact hop.select_names hmark hsel

/-- After an activation the selection names the activated device, as long as no later
operation activates a device or forgets that one: endpoint updates may move it, nothing
else names another device. -/
theorem run_activate_names (hd : d.WellFormed) {id : DeviceId} {endpoint : Endpoint}
    {now : Instant} {ops : List DirOp} (hv : ∀ op ∈ .activate id endpoint now :: ops, op.ValidTimes)
    (hq : ∀ op ∈ ops, op.Spares id) :
    (d.run (.activate id endpoint now :: ops)).lastSelected.map (·.deviceId) = some id := by
  obtain ⟨-, -, -, hact⟩ := activate_eq d id endpoint now
  have hsel : (d.apply (.activate id endpoint now)).lastSelected.map (·.deviceId) = some id := by
    rw [lastSelected_apply hd (hv _ List.mem_cons_self)]
    rfl
  exact run_names_of_spared (hd.apply _) (fun op ho => hv op (List.mem_cons_of_mem _ ho)) hq
    (.inr hact) hsel

end Run

/-! ## Expiry -/

section Expiry

variable {d : SessionDirectory}

/-- In a well-formed directory two sessions of one id are one session. -/
theorem WellFormed.eq_of_id_eq (hd : d.WellFormed) {s t : DeviceSession} (hs : s ∈ d.sessions)
    (ht : t ∈ d.sessions) (h : s.id = t.id) : s = t := by
  have hfind := hd.get?_of_mem hs
  rw [h, hd.get?_of_mem ht] at hfind
  exact (Option.some.inj hfind).symm

/-- An id is among the expired ones exactly when its session has expired. -/
theorem expired_ids_contains (hd : d.WellFormed) (now : Instant) {s : DeviceSession}
    (hs : s ∈ d.sessions) :
    ((d.sessions.filter (d.isExpired now)).map (·.id)).contains s.id = d.isExpired now s := by
  rw [Bool.eq_iff_iff, List.contains_iff_mem, List.mem_map]
  constructor
  · rintro ⟨t, ht, hid⟩
    obtain ⟨ht, hexp⟩ := List.mem_filter.mp ht
    rwa [← hd.eq_of_id_eq ht hs hid]
  · intro hexp
    exact ⟨s, List.mem_filter.mpr ⟨hs, hexp⟩, rfl⟩

/-- Expiry keeps exactly the sessions that have not expired. -/
theorem mem_expireStale (hd : d.WellFormed) (now : Instant) (s : DeviceSession) :
    s ∈ (d.expireStale now).2.sessions ↔ s ∈ d.sessions ∧ d.isExpired now s = false := by
  simp only [expireStale, List.mem_filter, Bool.not_eq_true']
  constructor
  · rintro ⟨hs, hkept⟩
    exact ⟨hs, (expired_ids_contains hd now hs) ▸ hkept⟩
  · rintro ⟨hs, hexp⟩
    exact ⟨hs, (expired_ids_contains hd now hs).symm ▸ hexp⟩

/-- Expiry answers the ids of the sessions it removed. -/
theorem mem_expireStale_ids (hd : d.WellFormed) (now : Instant) (id : DeviceId) :
    id ∈ (d.expireStale now).1 ↔
      ∃ s ∈ d.sessions, s.id = id ∧ s ∉ (d.expireStale now).2.sessions := by
  show id ∈ (d.sessions.filter (d.isExpired now)).map (·.id) ↔ _
  simp only [mem_expireStale hd, List.mem_map, List.mem_filter, not_and, Bool.not_eq_false]
  constructor
  · rintro ⟨s, ⟨hs, hexp⟩, rfl⟩
    exact ⟨s, hs, rfl, fun _ => hexp⟩
  · rintro ⟨s, hs, rfl, hexp⟩
    exact ⟨s, ⟨hs, hexp hs⟩, rfl⟩

/-- Expiry keeps the active mark exactly when the active session stays. -/
theorem expireStale_active_filter (hd : d.WellFormed) (now : Instant) :
    (d.expireStale now).2.active =
      d.active.filter (· ∈ sessionIds (d.expireStale now).2.sessions) := by
  rw [expireStale_active]
  cases ha : d.active with
  | none => rfl
  | some id =>
    obtain ⟨s, hs, rfl⟩ := List.mem_map.mp (hd.active_stored id ha)
    -- the active id stays listed exactly when its own session is kept
    have hstays : s.id ∈ sessionIds (d.expireStale now).2.sessions ↔ d.isExpired now s = false := by
      constructor
      · intro hmem
        obtain ⟨t, ht, hid⟩ := List.mem_map.mp hmem
        obtain ⟨ht, hexp⟩ := (mem_expireStale hd now t).mp ht
        rwa [hd.eq_of_id_eq ht hs hid] at hexp
      · intro hexp
        exact List.mem_map.mpr ⟨s, (mem_expireStale hd now s).mpr ⟨hs, hexp⟩, rfl⟩
    have hgone : (d.expireStale now).1.contains s.id = d.isExpired now s :=
      expired_ids_contains hd now hs
    simp only [Option.any_some, hgone, Option.filter_some, hstays]
    cases d.isExpired now s <;> rfl

end Expiry

/-! ## Activation -/

section Activation

variable (s : DeviceSession)

/-- Inserting into a list of increasing ids replaces the session of the same id. -/
theorem id_ne_of_mem_upsertSession {l : List DeviceSession} (h : IdsAscending l)
    {x : DeviceSession} (hx : x ∈ upsertSession s l) (hne : x ≠ s) : x.id ≠ s.id := by
  induction l with
  | nil => simp_all [upsertSession]
  | cons y rest ih =>
    have hy : ∀ z ∈ rest, y.id.val < z.id.val := (List.pairwise_cons.mp h).1
    unfold upsertSession at hx
    split_ifs at hx with hlt heq
    · -- `s` goes first: every other id is larger
      intro hid
      rcases List.mem_cons.mp hx with rfl | hx
      · exact hne rfl
      rcases List.mem_cons.mp hx with rfl | hx
      · exact lt_irrefl _ (hid ▸ hlt)
      · exact lt_irrefl _ (hid ▸ lt_trans hlt (hy x hx))
    · -- `s` takes the place of `y`: the rest has larger ids
      intro hid
      rcases List.mem_cons.mp hx with rfl | hx
      · exact hne rfl
      · exact lt_irrefl _ (heq ▸ hid ▸ hy x hx)
    · rcases List.mem_cons.mp hx with rfl | hx
      · intro hid
        exact heq (by rw [hid])
      · exact ih (List.pairwise_cons.mp h).2 hx

variable (d : SessionDirectory)

/-- The session an activation stores: under its id, reached through its endpoint. -/
theorem activate_sessions (id : DeviceId) (endpoint : Endpoint) (now : Instant) :
    ∃ s : DeviceSession, s.id = id ∧ s.endpoint = endpoint ∧
      (d.activate id endpoint now).sessions =
        upsertSession s (d.sessions.filter fun s => s.id == id || s.endpoint != endpoint) := by
  unfold activate
  dsimp only
  rw [persist_sessions]
  split
  · rename_i s hs
    have hid : s.id = id := by simpa using List.find?_some hs
    exact ⟨{ s with endpoint, lastSeen := now }, hid, rfl, rfl⟩
  · exact ⟨DeviceSession.new id endpoint now, rfl, rfl, rfl⟩

/-- After an activation, a session is reached through the activated endpoint exactly when
it is the activated device's, and that device has a session. -/
theorem activate_endpoint_iff (hd : d.WellFormed) (id : DeviceId) (endpoint : Endpoint)
    (now : Instant) :
    (∀ t ∈ (d.activate id endpoint now).sessions, t.endpoint = endpoint ↔ t.id = id) ∧
      id ∈ sessionIds (d.activate id endpoint now).sessions := by
  obtain ⟨s, hid, hep, hsess⟩ := activate_sessions d id endpoint now
  have hasc : IdsAscending (d.sessions.filter fun s => s.id == id || s.endpoint != endpoint) :=
    hd.ascending.filter _
  refine ⟨fun t ht => ?_, ?_⟩
  · rw [hsess] at ht
    by_cases hts : t = s
    · rw [hts, hid, hep]
      simp
    · -- any other session kept its place because its endpoint differs
      have hne : t.id ≠ id := hid ▸ id_ne_of_mem_upsertSession s hasc ht hts
      rcases mem_upsertSession s ht with rfl | hkept
      · exact absurd rfl hts
      have hdiff : t.endpoint ≠ endpoint := by
        have := (List.mem_filter.mp hkept).2
        simpa [hne] using this
      simp [hdiff, hne]
  · rw [hsess, mem_ids_upsertSession]
    exact .inl hid.symm

end Activation

end SessionDirectory

/-- The saved selection follows the directory's history, expiry removes exactly the expired
sessions, and an activation leaves its device the only one reached through its endpoint.
Every directory a fresh one reaches is well formed; on those:

* a run moves the selection by the decisions of `DirOp.select`, each reading only the active
  mark it finds, and after an activation the selection names the activated device until a
  later activation or a forget of that device;
* expiry keeps exactly the sessions that have not expired, answers the ids of those it
  removed, and keeps the active mark exactly when the active session stays; the window ages
  are compared with is the configured expiry up to `2^63 - 1` milliseconds;
* after an activation a session is reached through the activated endpoint exactly when it
  is the activated device's, which is stored. -/
theorem selection_follows_history :
    (∀ (store : ConfigStore) (expiry : Span) (ops : List DirOp),
      (SessionDirectory.run { store, expiry } ops).WellFormed) ∧
    (∀ (d : SessionDirectory) (ops : List DirOp), d.WellFormed → (∀ op ∈ ops, op.ValidTimes) →
      (d.run ops).lastSelected = d.selectionAfter d.lastSelected ops) ∧
    (∀ (d : SessionDirectory) (id : DeviceId) (endpoint : Endpoint) (now : Instant)
        (ops : List DirOp), d.WellFormed →
      (∀ op ∈ .activate id endpoint now :: ops, op.ValidTimes) → (∀ op ∈ ops, op.Spares id) →
      (d.run (.activate id endpoint now :: ops)).lastSelected.map (·.deviceId) = some id) ∧
    (∀ (d : SessionDirectory) (now : Instant), d.WellFormed →
      (∀ s, s ∈ (d.expireStale now).2.sessions ↔ s ∈ d.sessions ∧ d.isExpired now s = false) ∧
      (∀ id, id ∈ (d.expireStale now).1 ↔
        ∃ s ∈ d.sessions, s.id = id ∧ s ∉ (d.expireStale now).2.sessions) ∧
      (d.expireStale now).2.active =
        d.active.filter (· ∈ sessionIds (d.expireStale now).2.sessions)) ∧
    (∀ ms : Nat, (Span.ofMillis ms).expiryWindow =
      if ms ≤ 9223372036854775807 then Span.ofMillis ms else ⟨5200 * 7 * 86400, 0⟩) ∧
    (∀ (d : SessionDirectory) (id : DeviceId) (endpoint : Endpoint) (now : Instant),
      d.WellFormed →
      (∀ t ∈ (d.activate id endpoint now).sessions, t.endpoint = endpoint ↔ t.id = id) ∧
        id ∈ sessionIds (d.activate id endpoint now).sessions) :=
  ⟨fun store expiry ops => (SessionDirectory.wellFormed_empty store expiry).run ops,
    fun _ _ hd hv => SessionDirectory.lastSelected_run hd hv,
    fun _ _ _ _ _ hd hv hq => SessionDirectory.run_activate_names hd hv hq,
    fun _ now hd => ⟨SessionDirectory.mem_expireStale hd now,
      SessionDirectory.mem_expireStale_ids hd now, SessionDirectory.expireStale_active_filter hd now⟩,
    Span.expiryWindow_ofMillis,
    fun d id endpoint now hd => SessionDirectory.activate_endpoint_iff d hd id endpoint now⟩

/-- A device activated, pointed elsewhere while active and then closed: the selection is the
update's. -/
theorem updated_selection_survives_close :
    let d : SessionDirectory := { store := {}, expiry := Span.ofMillis 120000 }
    let ops := [DirOp.activate ⟨"esp32"⟩ (.direct "ws://a") ⟨20000, 0, 0⟩,
      .updateEndpoint ⟨"esp32"⟩ (.direct "ws://b") ⟨20000, 1, 0⟩, .close]
    d.WellFormed ∧ (∀ op ∈ ops, op.ValidTimes) ∧
      (d.run ops).lastSelected =
        some { deviceId := ⟨"esp32"⟩, endpoint := .direct "ws://b", savedAt := ⟨20000, 1, 0⟩ } := by
  intro d ops
  have hd : d.WellFormed := SessionDirectory.wellFormed_empty _ _
  have hv : ∀ op ∈ ops, op.ValidTimes := by
    simp only [ops, List.mem_cons, List.not_mem_nil, or_false, forall_eq_or_imp, forall_eq]
    exact ⟨⟨by decide, by decide, by decide, by decide⟩, ⟨by decide, by decide, by decide, by decide⟩,
      trivial⟩
  exact ⟨hd, hv, (selection_follows_history.2.1 d ops hd hv).trans (by decide)⟩

end Tether
