import Mathlib
import Tether.Proofs.StateMirror
import Tether.Proofs.SessionSwitch
import Tether.Proofs.AddressAdoption
import Tether.Proofs.BusCounters
/-!
# Proofs.PortalProbe — a portal probe registers exactly the advertised devices

A probe (`Host.probePortal`) scans for access points, keeps those whose SSID has the portal
prefix (`Host.portalMatches`), and for each of them in turn discovers the device the SSID
names, through its portal endpoint, and advertises the access point on `portal/advertised`.

Discoveries at one instant do not interfere: discovering a device in a directory that already
holds what discovering it gives changes nothing, so every session the probe returns is what
the directory before the probe gives (`Host.portalSession`), repeated SSIDs included
(`SessionDirectory.discovered_fst_discovered`, `Host.foldl_probeStep`).  A known device keeps
its session, seen again now; a new one is added, reached through its portal
(`Host.portalSession_of_known`, `Host.portalSession_of_new`).  Publishing reads nothing of the
directory (`Host.emit_setSessions`), so the probe is the publication of one advertisement per
access point, in order, with the directory of the discoveries (`Host.probePortal_of_ok`).

A subscriber's queue keeps, of a topic, the newest events up to its limit
(`EventQueue.onTopic_pushAll`); the provisioning driver, unconfigured, moves to AP mode with
the SSID of the first advertisement it handles and ignores the others
(`Host.foldl_onTelemetry_advertised`).

The main statement is `portal_probe_registers_advertised_devices`.
-/

namespace Tether

open Tether.Json

set_option autoImplicit false

/-! ## Registering devices -/

/-- The endpoint of a device that is its own access point: join the SSID its id names, with
the portal passphrase, then reach the portal URL. -/
def ProvisioningConfig.portalEndpoint (p : ProvisioningConfig) (id : DeviceId) : Endpoint :=
  .captive id.val p.portalPassphrase p.portalUrl

/-- After an insertion the session found under an id is the inserted one when the ids agree,
and the one found before otherwise. -/
theorem find?_upsertSession (s : DeviceSession) (l : List DeviceSession) (id : DeviceId) :
    (upsertSession s l).find? (·.id == id) = if s.id = id then some s else l.find? (·.id == id) := by
  induction l with
  | nil => by_cases hid : s.id = id <;> simp [upsertSession, hid]
  | cons x rest ih =>
    unfold upsertSession
    by_cases hlt : s.id.val < x.id.val
    · rw [if_pos hlt]
      by_cases hid : s.id = id <;> simp [hid]
    · rw [if_neg hlt]
      by_cases heq : s.id.val = x.id.val
      · -- the stored session of the same id is replaced
        rw [if_pos heq]
        have hx : x.id = s.id := congrArg DeviceId.mk heq.symm
        by_cases hid : s.id = id
        · simp [hid]
        · simp [hid, hx]
      · rw [if_neg heq]
        have hne : x.id ≠ s.id := fun h => heq (by rw [h])
        by_cases hxid : x.id = id
        · have hsid : s.id ≠ id := fun h => hne (hxid.trans h.symm)
          simp [hxid, hsid]
        · simp [hxid, ih]

theorem DeviceSession.refresh_of_lastSeen {s : DeviceSession} {now : Instant}
    (hs : s.lastSeen = now) : { s with lastSeen := now } = s := by
  cases s
  cases hs
  rfl

namespace SessionDirectory

variable (d : SessionDirectory) (now : Instant)

/-- A discovery stores the session it returns and changes nothing else. -/
theorem discovered_eq (id : DeviceId) (endpoint : Endpoint) :
    (d.discovered id endpoint now).2 =
      { d with sessions := upsertSession (d.discovered id endpoint now).1 d.sessions } := by
  unfold discovered
  split <;> rfl

@[simp] theorem discovered_fst_id (id : DeviceId) (endpoint : Endpoint) :
    (d.discovered id endpoint now).1.id = id := by
  cases hs : d.get? id with
  | none => simp [discovered, hs, DeviceSession.new]
  | some s => simp [discovered, hs, d.id_of_get? hs]

@[simp] theorem discovered_fst_lastSeen (id : DeviceId) (endpoint : Endpoint) :
    (d.discovered id endpoint now).1.lastSeen = now := by
  unfold discovered
  split <;> rfl

/-- After a discovery the directory holds the session returned under its id, and every other
session as it was. -/
theorem get?_discovered (id id' : DeviceId) (endpoint : Endpoint) :
    (d.discovered id endpoint now).2.get? id' =
      if id = id' then some (d.discovered id endpoint now).1 else d.get? id' := by
  rw [discovered_eq, get?]
  simp only
  rw [find?_upsertSession, discovered_fst_id]
  rfl

/-- Discovering a device in a directory that holds, under its id, what it held before or what
discovering it there at the same instant gives, gives the same session: a refresh at the
instant the session was last seen changes nothing. -/
theorem discovered_fst_of_get? {d' : SessionDirectory} {id : DeviceId} {endpoint : Endpoint}
    (hg : d'.get? id = d.get? id ∨ d'.get? id = some (d.discovered id endpoint now).1) :
    (d'.discovered id endpoint now).1 = (d.discovered id endpoint now).1 := by
  rcases hg with hg | hg
  · cases hs : d.get? id <;> simp [discovered, hg, hs]
  · conv_lhs => unfold discovered
    rw [hg]
    exact DeviceSession.refresh_of_lastSeen (d.discovered_fst_lastSeen now id endpoint)

/-- Discoveries at one instant, each through the endpoint its id is reached by, do not
interfere: a device returns the session the first directory gives it. -/
theorem discovered_fst_discovered (E : DeviceId → Endpoint) (id id' : DeviceId) :
    ((d.discovered id (E id) now).2.discovered id' (E id') now).1 =
      (d.discovered id' (E id') now).1 := by
  apply discovered_fst_of_get?
  rw [get?_discovered]
  by_cases hid : id = id'
  · subst hid
    exact .inr (by rw [if_pos rfl])
  · exact .inl (by rw [if_neg hid])

/-- The directory after discovering, in order, the device of each of a list of access
points, through its portal endpoint. -/
def discoverAll (d : SessionDirectory) (p : ProvisioningConfig) (now : Instant)
    (aps : List AccessPoint) : SessionDirectory :=
  aps.foldl (fun d ap => (d.discovered ⟨ap.ssid⟩ (p.portalEndpoint ⟨ap.ssid⟩) now).2) d

/-- After discovering the devices of a list, the directory holds under each of their ids what
discovering it alone would have given, and every other session as it was. -/
theorem get?_discoverAll (d : SessionDirectory) (p : ProvisioningConfig) (now : Instant)
    (aps : List AccessPoint) (id : DeviceId) :
    (d.discoverAll p now aps).get? id =
      if id.val ∈ aps.map (·.ssid) then some (d.discovered id (p.portalEndpoint id) now).1
      else d.get? id := by
  induction aps generalizing d with
  | nil => simp [discoverAll]
  | cons ap aps ih =>
    rw [discoverAll, List.foldl_cons, ← discoverAll, ih, discovered_fst_discovered,
      get?_discovered]
    by_cases hin : id.val ∈ aps.map (·.ssid)
    · simp [hin]
    · by_cases hap : (⟨ap.ssid⟩ : DeviceId) = id
      · subst hap
        simp
      · have hne : ap.ssid ≠ id.val := fun h => hap (by rw [h])
        simp [hin, hap, Ne.symm hne]

@[simp] theorem discoverAll_active (d : SessionDirectory) (p : ProvisioningConfig) (now : Instant)
    (aps : List AccessPoint) : (d.discoverAll p now aps).active = d.active := by
  induction aps generalizing d with
  | nil => rfl
  | cons ap aps ih => rw [discoverAll, List.foldl_cons, ← discoverAll, ih, discovered_active]

@[simp] theorem discoverAll_store (d : SessionDirectory) (p : ProvisioningConfig) (now : Instant)
    (aps : List AccessPoint) : (d.discoverAll p now aps).store = d.store := by
  induction aps generalizing d with
  | nil => rfl
  | cons ap aps ih => rw [discoverAll, List.foldl_cons, ← discoverAll, ih, discovered_store]

end SessionDirectory

namespace AccessPoint

/-- What a probe publishes on `portal/advertised` for an access point it finds. -/
def advertisement (ap : AccessPoint) : Json :=
  Json.object [("ssid", .str ap.ssid), ("signal", Json.ofOption Json.ofNat ap.signal),
    ("secured", .bool ap.secured)]

theorem advertisement_ssid (ap : AccessPoint) :
    ap.advertisement.get? "ssid" = some (.str ap.ssid) := by
  have h₁ : ("signal" : String) < "ssid" := by decide
  have h₂ : ("secured" : String) < "signal" := by decide
  simp only [AccessPoint.advertisement, Json.object, List.foldl, Json.get?]
  rw [Json.insertField, Json.insertField, if_pos h₁, Json.insertField, if_pos h₂]
  rfl

end AccessPoint

namespace Host

/-- The access points a probe registers: those whose SSID starts with the portal prefix, in
the order they were found. -/
def portalMatches (h : Host) (aps : List AccessPoint) : List AccessPoint :=
  aps.filter (·.ssid.startsWith h.config.provisioning.portalSsidPrefix)

/-- The session a probe returns for a device it finds: what discovering the device through
its portal endpoint, in the directory as it stood before the probe, gives. -/
def portalSession (h : Host) (id : DeviceId) : DeviceSession :=
  (h.sessions.discovered id (h.config.provisioning.portalEndpoint id) h.now).1

/-- One step of a probe: the device of an access point is discovered, then advertised. -/
def probeStep (p : ProvisioningConfig) : List DeviceSession × Host → AccessPoint →
    List DeviceSession × Host
  | (acc, h), ap =>
    let (s, dir) := h.sessions.discovered ⟨ap.ssid⟩ (.captive ap.ssid p.portalPassphrase p.portalUrl) h.now
    let h := { h with sessions := dir }
    (acc ++ [s], h.emit portalAdvertisedTopic ap.advertisement)

section Probe

variable (h : Host)

/-- A probe is a failed scan, or one step for each access point that matches. -/
theorem probePortal_eq : h.probePortal = match h.scan with
    | .error e => (.error (.portalScan e.message), h)
    | .ok aps =>
      let (ss, h') := (h.portalMatches aps).foldl (probeStep h.config.provisioning) ([], h)
      (.ok ss, h') := rfl

section Emit

variable (topic : String) (payload : Json)

@[simp] theorem emit_now : (h.emit topic payload).now = h.now := by
  obtain ⟨r, hr⟩ := h.emit_eq topic payload
  rw [hr]
  rfl

/-- Waking workers does not read the session directory. -/
theorem wake_setSessions (d : SessionDirectory) (ids : List Nat) :
    ({ h with sessions := d } : Host).wake ids = { h.wake ids with sessions := d } := by
  induction ids generalizing h with
  | nil => rfl
  | cons id rest ih =>
    simp only [wake, List.foldl_cons] at ih ⊢
    rw [← ih]
    congr 1
    simp only [worker?]
    split
    · split <;> rfl
    · rfl

/-- Publishing does not read the session directory. -/
theorem emit_setSessions (d : SessionDirectory) :
    ({ h with sessions := d } : Host).emit topic payload = { h.emit topic payload with sessions := d } := by
  unfold emit
  exact wake_setSessions { h with fanout := (h.fanout.emit topic payload h.now).2.2 } d _

end Emit

theorem emitAll_setSessions (d : SessionDirectory) (events : List (String × Json)) :
    ({ h with sessions := d } : Host).emitAll events = { h.emitAll events with sessions := d } := by
  induction events generalizing h with
  | nil => rfl
  | cons e rest ih =>
    simp only [emitAll, List.foldl_cons] at ih ⊢
    rw [emit_setSessions, ih]

end Probe

@[simp] theorem now_setSessions (h : Host) (d : SessionDirectory) :
    ({ h with sessions := d } : Host).now = h.now := rfl

/-- One step of a probe: the device is discovered, then advertised. -/
theorem probeStep_eq (p : ProvisioningConfig) (acc : List DeviceSession) (g : Host)
    (ap : AccessPoint) :
    probeStep p (acc, g) ap =
      (acc ++ [(g.sessions.discovered ⟨ap.ssid⟩ (p.portalEndpoint ⟨ap.ssid⟩) g.now).1],
        { g.emit portalAdvertisedTopic ap.advertisement with
          sessions := (g.sessions.discovered ⟨ap.ssid⟩ (p.portalEndpoint ⟨ap.ssid⟩) g.now).2 }) := by
  simp only [probeStep]
  rw [emit_setSessions]
  rfl

/-- The steps of a probe discover the devices of the access points in order and advertise
each; every session they return is what the directory before them gives. -/
theorem foldl_probeStep (p : ProvisioningConfig) (aps : List AccessPoint)
    (acc : List DeviceSession) (g : Host) :
    aps.foldl (probeStep p) (acc, g) =
      (acc ++ aps.map (fun ap => (g.sessions.discovered ⟨ap.ssid⟩ (p.portalEndpoint ⟨ap.ssid⟩) g.now).1),
        { g.emitAll (aps.map fun ap => (portalAdvertisedTopic, ap.advertisement)) with
          sessions := g.sessions.discoverAll p g.now aps }) := by
  induction aps generalizing acc g with
  | nil => simp only [List.map_nil, List.append_nil, List.foldl_nil]; rfl
  | cons ap aps ih =>
    rw [List.foldl_cons, probeStep_eq, ih]
    -- the later steps see the directory of this one, which gives them the same sessions
    have hsame : ∀ ap' : AccessPoint,
        ((g.sessions.discovered ⟨ap.ssid⟩ (p.portalEndpoint ⟨ap.ssid⟩) g.now).2.discovered
          ⟨ap'.ssid⟩ (p.portalEndpoint ⟨ap'.ssid⟩) g.now).1 =
        (g.sessions.discovered ⟨ap'.ssid⟩ (p.portalEndpoint ⟨ap'.ssid⟩) g.now).1 :=
      fun ap' => SessionDirectory.discovered_fst_discovered _ _ p.portalEndpoint _ _
    refine Prod.ext ?_ ?_
    · simp only [now_setSessions, emit_now, hsame, List.map_cons, List.append_assoc,
        List.singleton_append]
    · simp only [now_setSessions, emit_now]
      rw [emitAll_setSessions]
      rfl

/-! ## What a probe does -/

section

variable {h : Host}

/-- A probe whose scan fails answers the failure and changes nothing. -/
theorem probePortal_of_error {e : NetworkError} (hs : h.scan = .error e) :
    h.probePortal = (.error (.portalScan e.message), h) := by
  rw [probePortal_eq, hs]

/-- A probe whose scan succeeds returns, in order, the session of each access point that
matches, and advertises each; the directory is the one discovering them gives. -/
theorem probePortal_of_ok {aps : List AccessPoint} (hs : h.scan = .ok aps) :
    h.probePortal = (.ok ((h.portalMatches aps).map fun ap => h.portalSession ⟨ap.ssid⟩),
      { h.emitAll ((h.portalMatches aps).map fun ap => (portalAdvertisedTopic, ap.advertisement)) with
        sessions := h.sessions.discoverAll h.config.provisioning h.now (h.portalMatches aps) }) := by
  rw [probePortal_eq, hs]
  dsimp only
  rw [foldl_probeStep]
  rfl

/-- A device the directory knows keeps its session, seen again now. -/
theorem portalSession_of_known {id : DeviceId} {s : DeviceSession} (hs : h.sessions.get? id = some s) :
    h.portalSession id = { s with lastSeen := h.now } := by
  simp [portalSession, SessionDirectory.discovered, hs]

/-- A device the directory does not know gets a new session through its portal. -/
theorem portalSession_of_new {id : DeviceId} (hs : h.sessions.get? id = none) :
    h.portalSession id =
      { id, link := .disconnected, lastSeen := h.now, viaPortal := true,
        endpoint := .captive id.val h.config.provisioning.portalPassphrase
          h.config.provisioning.portalUrl } := by
  simp [portalSession, SessionDirectory.discovered, hs, DeviceSession.new,
    ProvisioningConfig.portalEndpoint, Endpoint.portalSsid]

/-! ## The provisioning driver -/

/-- An advertisement moves an unconfigured driver to AP mode with its SSID. -/
theorem onTelemetry_advertised_of_unconfigured (hp : h.provisioning = .unconfigured)
    {e : TelemetryEvent} (he : e.topic = portalAdvertisedTopic) {ssid : String}
    (hssid : e.payload.get? "ssid" = some (.str ssid)) :
    h.onTelemetry e = h.publishProvisioning (.apMode ssid) := by
  simp [onTelemetry, he, hssid, applyInput, hp, ProvisioningState.step, sendAll]

/-- A driver in AP mode ignores an advertisement. -/
theorem onTelemetry_advertised_of_apMode {ssid : String} (hp : h.provisioning = .apMode ssid)
    {e : TelemetryEvent} (he : e.topic = portalAdvertisedTopic) :
    h.onTelemetry e = h := by
  unfold onTelemetry
  simp only [he, beq_self_eq_true, if_true]
  split
  · simp [applyInput, hp, ProvisioningState.step]
  · rfl

/-- A driver in AP mode ignores advertisements. -/
theorem foldl_onTelemetry_of_apMode {ssid : String} (hp : h.provisioning = .apMode ssid)
    {es : List TelemetryEvent} (hes : ∀ e ∈ es, e.topic = portalAdvertisedTopic) :
    es.foldl onTelemetry h = h := by
  induction es with
  | nil => rfl
  | cons e rest ih =>
    rw [List.foldl_cons, onTelemetry_advertised_of_apMode hp (hes e List.mem_cons_self)]
    exact ih fun e' he' => hes e' (List.mem_cons_of_mem e he')

/-- Handling advertisements from unconfigured: the first moves the driver to AP mode with its
SSID, and every later one is ignored. -/
theorem foldl_onTelemetry_advertised (hp : h.provisioning = .unconfigured)
    {e : TelemetryEvent} {rest : List TelemetryEvent}
    (hes : ∀ e' ∈ e :: rest, e'.topic = portalAdvertisedTopic) {ssid : String}
    (hssid : e.payload.get? "ssid" = some (.str ssid)) :
    (e :: rest).foldl onTelemetry h = h.publishProvisioning (.apMode ssid) := by
  rw [List.foldl_cons, onTelemetry_advertised_of_unconfigured hp (hes e List.mem_cons_self) hssid]
  exact foldl_onTelemetry_of_apMode (publishProvisioning_provisioning _ _)
    fun e' he' => hes e' (List.mem_cons_of_mem e he')

end

end Host

/-! ## Queues keep the newest events of a topic -/

theorem filter_eraseP_self {α : Type} (p : α → Bool) (l : List α) :
    (l.eraseP p).filter p = (l.filter p).tail := by
  induction l with
  | nil => rfl
  | cons a l ih =>
    by_cases ha : p a = true
    · simp [List.eraseP_cons_of_pos ha, ha]
    · simp [List.eraseP_cons_of_neg ha, ha, ih]

/-- Taking the newest `n` of a list and adding some at the end, then taking the newest `n`, is
taking the newest `n` of the whole. -/
theorem rtake_rtake_append {α : Type} (l m : List α) (n : Nat) :
    (l.rtake n ++ m).rtake n = (l ++ m).rtake n := by
  simp only [List.rtake_eq_reverse_take_reverse, List.reverse_append, List.reverse_reverse,
    List.take_append, List.take_take, Nat.min_eq_left (Nat.sub_le n _)]

namespace EventQueue

/-- The events of a topic after a push onto a queue holding at most its limit of them: the
newest `limit` of them and the new one. -/
theorem onTopic_push {q : EventQueue} (hpos : 0 < q.limit) (e : TelemetryEvent)
    (hle : q.countOn e.topic ≤ q.limit) :
    (q.push e).1.events.filter (·.topic == e.topic) =
      (q.events.filter (·.topic == e.topic) ++ [e]).rtake q.limit := by
  have hcount : q.countOn e.topic = (q.events.filter (·.topic == e.topic)).length :=
    List.countP_eq_length_filter
  rw [push_eq]
  by_cases hfull : q.limit ≤ q.countOn e.topic
  · -- the oldest event of the topic goes: what is left is the newest `limit`
    rw [if_pos hfull]
    simp only [List.filter_append, filter_eraseP_self, List.filter_singleton, beq_self_eq_true,
      cond_true]
    have hlen : (q.events.filter (·.topic == e.topic)).length = q.limit := by omega
    rw [List.rtake, List.length_append, List.length_singleton, hlen, Nat.add_sub_cancel_left,
      List.drop_append_of_le_length (by omega), List.drop_one]
  · rw [if_neg hfull]
    simp only [List.filter_append, List.filter_singleton, beq_self_eq_true, cond_true]
    -- the topic had room: nothing goes
    have hlen : (q.events.filter (·.topic == e.topic)).length + 1 ≤ q.limit := by omega
    rw [List.rtake, List.length_append, List.length_singleton, Nat.sub_eq_zero_of_le hlen,
      List.drop_zero]

/-- Events of one topic pushed onto a queue holding at most its limit of them: the newest
`limit` of those it held and the new ones. -/
theorem onTopic_pushAll {q : EventQueue} (hpos : 0 < q.limit) {t : String}
    {es : List TelemetryEvent} (hes : ∀ e ∈ es, e.topic = t) (hle : q.countOn t ≤ q.limit) :
    (q.pushAll es).events.filter (·.topic == t) = (q.events.filter (·.topic == t) ++ es).rtake q.limit := by
  induction es generalizing q with
  | nil =>
    have hlen : (q.events.filter (·.topic == t)).length ≤ q.limit := by
      rwa [← List.countP_eq_length_filter]
    simp [pushAll, List.rtake, Nat.sub_eq_zero_of_le hlen]
  | cons e rest ih =>
    have het := hes e List.mem_cons_self
    have hpush := onTopic_push hpos e (het ▸ hle)
    rw [het] at hpush
    have hlim := push_limit q e
    have hle' : (q.push e).1.countOn t ≤ (q.push e).1.limit := by
      rw [countOn, List.countP_eq_length_filter, hpush, hlim, List.rtake, List.length_drop]
      omega
    rw [pushAll, List.foldl_cons, ← pushAll, ih (hlim ▸ hpos) (fun e' he' => hes e' (List.mem_cons_of_mem e he')) hle',
      hpush, hlim, rtake_rtake_append, List.append_assoc, List.singleton_append]

end EventQueue

/-- A portal probe registers exactly the advertised devices.  A failed scan is answered as a
portal scan failure and changes nothing.  Otherwise the probe returns, in the order the scan
found them, one session for each access point whose SSID has the portal prefix, repeated SSIDs
included: under the id the SSID names, a known device keeps its session, seen again now, and
a new one is added reached through its portal.  The directory holds those sessions and every
other one as it was, keeps its active mark and its store, and the bus gets one advertisement
per session, in the same order.  A subscriber's queue keeps the newest advertisements, as many
as its limit; and the provisioning driver, unconfigured, moves to AP mode with the SSID of
the first advertisement it handles and ignores the others. -/
theorem portal_probe_registers_advertised_devices :
    (∀ (h : Host) (e : NetworkError), h.scan = .error e →
      h.probePortal = (.error (.portalScan e.message), h)) ∧
    (∀ (h : Host) (aps : List AccessPoint), h.scan = .ok aps →
      h.probePortal.1 = .ok ((h.portalMatches aps).map fun ap => h.portalSession ⟨ap.ssid⟩) ∧
      (∀ id, h.probePortal.2.sessions.get? id =
        if id.val ∈ (h.portalMatches aps).map (·.ssid) then some (h.portalSession id)
        else h.sessions.get? id) ∧
      h.probePortal.2.sessions.active = h.sessions.active ∧
      h.probePortal.2.sessions.store = h.sessions.store ∧
      h.probePortal.2 =
        { h.emitAll ((h.portalMatches aps).map fun ap => (portalAdvertisedTopic, ap.advertisement)) with
          sessions := h.probePortal.2.sessions }) ∧
    (∀ (h : Host) (id : DeviceId), (h.portalSession id).id = id ∧
      (∀ s, h.sessions.get? id = some s → h.portalSession id = { s with lastSeen := h.now }) ∧
      (h.sessions.get? id = none → h.portalSession id =
        { id, link := .disconnected, lastSeen := h.now, viaPortal := true,
          endpoint := .captive id.val h.config.provisioning.portalPassphrase
            h.config.provisioning.portalUrl })) ∧
    (∀ (q : EventQueue) (es : List TelemetryEvent), 0 < q.limit →
      q.countOn portalAdvertisedTopic = 0 → (∀ e ∈ es, e.topic = portalAdvertisedTopic) →
      (q.pushAll es).events.filter (·.topic == portalAdvertisedTopic) = es.rtake q.limit) ∧
    ∀ (h : Host) (e : TelemetryEvent) (rest : List TelemetryEvent) (ap : AccessPoint),
      h.provisioning = .unconfigured → (∀ e' ∈ e :: rest, e'.topic = portalAdvertisedTopic) →
      e.payload = ap.advertisement →
      (e :: rest).foldl Host.onTelemetry h = h.publishProvisioning (.apMode ap.ssid) := by
  refine ⟨fun h e hs => Host.probePortal_of_error hs, fun h aps hs => ?_, fun h id => ?_,
    fun q es hpos hnone hes => ?_, fun h e rest ap hp hes hpay => ?_⟩
  · rw [Host.probePortal_of_ok hs]
    refine ⟨rfl, fun id => ?_, by simp, by simp, rfl⟩
    exact SessionDirectory.get?_discoverAll _ _ _ _ id
  · refine ⟨SessionDirectory.discovered_fst_id _ _ _ _, fun s hs => Host.portalSession_of_known hs,
      Host.portalSession_of_new⟩
  · have h0 : q.events.filter (·.topic == portalAdvertisedTopic) = [] :=
      List.filter_eq_nil_iff.mpr (List.countP_eq_zero.mp hnone)
    rw [EventQueue.onTopic_pushAll hpos hes (by omega), h0, List.nil_append]
  · exact Host.foldl_onTelemetry_advertised hp hes (hpay ▸ AccessPoint.advertisement_ssid ap)


/-- A scan that finds one device's access point among others: the probe returns that device's
session alone, a failing scan is reported, a queue of one event per topic keeps the newest of
two advertisements, and the unconfigured driver moves to AP mode with the device's SSID. -/
theorem esp_device_probed_and_advertised :
    let ap : AccessPoint := { ssid := "esp32m-1a2b", signal := some 72, secured := false }
    let home : AccessPoint := { ssid := "home-net", signal := some 88, secured := true }
    let h : Host :=
      { config := {}, origin := ⟨20000, 0, 0⟩, fanout := Fanout.new {} 1,
        sessions := { store := {}, expiry := Span.ofMillis 120000 }, joiner := {},
        scan := .ok [ap, home] }
    let failure : NetworkError := .failed "nmcli" "exit status: 8" "Error: NetworkManager is not running."
    let e₁ : TelemetryEvent :=
      { topic := portalAdvertisedTopic, seq := 1, payload := ap.advertisement, receivedAt := ⟨20000, 0, 0⟩ }
    let e₂ : TelemetryEvent := { e₁ with seq := 2 }
    h.probePortal.1 = .ok [h.portalSession ⟨"esp32m-1a2b"⟩] ∧
      { h with scan := .error failure }.probePortal =
        (.error (.portalScan failure.message), { h with scan := .error failure }) ∧
      ((EventQueue.empty 1).pushAll [e₁, e₂]).events.filter (·.topic == portalAdvertisedTopic) =
        [e₂] ∧
      ([e₁].foldl Host.onTelemetry h).provisioning = .apMode "esp32m-1a2b" := by
  intro ap home h failure e₁ e₂
  have hmatch : h.portalMatches [ap, home] = [ap] := by decide +kernel
  have htopics : ∀ e ∈ [e₁, e₂], e.topic = portalAdvertisedTopic := by simp [e₁, e₂]
  refine ⟨?_, portal_probe_registers_advertised_devices.1 _ failure rfl, ?_, ?_⟩
  · rw [(portal_probe_registers_advertised_devices.2.1 h [ap, home] rfl).1, hmatch]
    rfl
  · rw [portal_probe_registers_advertised_devices.2.2.2.1 (EventQueue.empty 1) [e₁, e₂] (by decide)
      rfl htopics]
    rfl
  · rw [portal_probe_registers_advertised_devices.2.2.2.2 h e₁ [] ap rfl
      (fun e he => htopics e (by simp at he; simp [he])) rfl]
    exact Host.publishProvisioning_provisioning _ _

end Tether
