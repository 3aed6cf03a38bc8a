import Tether.Session.Directory
import Tether.Proofs.HostSteps
/-!
# Proofs.DirectoryInvariant — every session under its own id, and the active one stored

The session directory keeps its sessions in a list ordered by device id.  Whatever is done
to it, two things stay true (`SessionDirectory.WellFormed`):

* the ids strictly increase along the list, so each device has one session and looking a
  device up finds the session of that id (`WellFormed.get?_of_mem`);
* the active id, if any, is the id of a stored session (`WellFormed.get?_active`).

Each operation keeps them (`WellFormed.apply`), so every run from an empty directory does
(`WellFormed.run`).  Most operations change the sessions only through their ids: `modify`
keeps the ids, `filter` drops some, and `upsertSession` adds one in its place
(`mem_ids_upsertSession`).
-/

namespace Tether

set_option autoImplicit false

/-- An operation on the session directory. -/
inductive DirOp where
  | discovered (id : DeviceId) (endpoint : Endpoint) (now : Instant)
  | activate (id : DeviceId) (endpoint : Endpoint) (now : Instant)
  | deactivate
  | close
  | forget (id : DeviceId)
  | setLink (id : DeviceId) (link : LinkState)
  | touch (id : DeviceId) (now : Instant)
  | updateEndpoint (id : DeviceId) (endpoint : Endpoint) (now : Instant)
  | expireStale (now : Instant)

/-- The ids of sessions, in order. -/
def sessionIds (l : List DeviceSession) : List DeviceId := l.map (·.id)

/-- Ids that strictly increase. -/
def IdsAscending (l : List DeviceSession) : Prop := l.Pairwise (·.id.val < ·.id.val)

/-! ## Inserting a session -/

section Upsert

variable (s : DeviceSession)

theorem mem_upsertSession {x : DeviceSession} {l : List DeviceSession}
    (h : x ∈ upsertSession s l) : x = s ∨ x ∈ l := by
  induction l with
  | nil => simpa [upsertSession] using h
  | cons y rest ih =>
    unfold upsertSession at h
    split_ifs at h
    · rcases List.mem_cons.mp h with rfl | hx
      · exact .inl rfl
      · exact .inr hx
    · rcases List.mem_cons.mp h with rfl | hx
      · exact .inl rfl
      · exact .inr (List.mem_cons_of_mem y hx)
    · rcases List.mem_cons.mp h with rfl | hx
      · exact .inr List.mem_cons_self
      · rcases ih hx with rfl | hx
        · exact .inl rfl
        · exact .inr (List.mem_cons_of_mem y hx)

/-- Inserting a session adds its id and keeps the others. -/
theorem mem_ids_upsertSession (l : List DeviceSession) (id : DeviceId) :
    id ∈ sessionIds (upsertSession s l) ↔ id = s.id ∨ id ∈ sessionIds l := by
  induction l with
  | nil => simp [upsertSession, sessionIds]
  | cons y rest ih =>
    simp only [sessionIds, List.map_cons, List.mem_cons] at ih ⊢
    unfold upsertSession
    split_ifs with hlt heq
    · simp
    · -- the session of the same id is replaced
      have hid : s.id = y.id := by
        cases hs : s.id
        cases hy : y.id
        simp_all
      simp only [List.map_cons, List.mem_cons, hid]
      tauto
    · simp only [List.map_cons, List.mem_cons, ih]
      tauto

theorem upsertSession_ascending {l : List DeviceSession} (h : IdsAscending l) :
    IdsAscending (upsertSession s l) := by
  induction l with
  | nil => simp [upsertSession, IdsAscending]
  | cons y rest ih =>
    have hy : ∀ z ∈ rest, y.id.val < z.id.val := (List.pairwise_cons.mp h).1
    have hrest : IdsAscending rest := (List.pairwise_cons.mp h).2
    unfold upsertSession
    split_ifs with hlt heq
    · refine List.Pairwise.cons (fun z hz => ?_) h
      rcases List.mem_cons.mp hz with rfl | hz
      · exact hlt
      · exact lt_trans hlt (hy z hz)
    · exact List.Pairwise.cons (fun z hz => heq ▸ hy z hz) hrest
    · have hgt : y.id.val < s.id.val := lt_of_le_of_ne (not_lt.mp hlt) (Ne.symm heq)
      refine List.Pairwise.cons (fun z hz => ?_) (ih hrest)
      rcases mem_upsertSession s hz with rfl | hz
      · exact hgt
      · exact hy z hz

end Upsert

/-- In a list of strictly increasing ids, the session found under an id is the one stored
with it. -/
theorem find?_id_of_mem {l : List DeviceSession} (h : IdsAscending l) {s : DeviceSession}
    (hs : s ∈ l) : l.find? (·.id == s.id) = some s := by
  induction l with
  | nil => exact absurd hs List.not_mem_nil
  | cons y rest ih =>
    have hy : ∀ z ∈ rest, y.id.val < z.id.val := (List.pairwise_cons.mp h).1
    rcases List.mem_cons.mp hs with rfl | hs
    · simp
    · -- an earlier session has a smaller id, so the search passes it by
      have hne : y.id ≠ s.id := fun heq => absurd (hy s hs) (by rw [heq]; exact lt_irrefl _)
      rw [List.find?_cons_of_neg (by simpa using hne)]
      exact ih (List.pairwise_cons.mp h).2 hs

namespace SessionDirectory

/-- The directory after an operation. -/
def apply (d : SessionDirectory) : DirOp → SessionDirectory
  | .discovered id endpoint now => (d.discovered id endpoint now).2
  | .activate id endpoint now => d.activate id endpoint now
  | .deactivate => d.deactivate
  | .close => d.close.2
  | .forget id => d.forget id
  | .setLink id link => d.setLink id link
  | .touch id now => d.touch id now
  | .updateEndpoint id endpoint now => d.updateEndpoint id endpoint now
  | .expireStale now => (d.expireStale now).2

/-- The directory after a run of operations. -/
def run (d : SessionDirectory) : List DirOp → SessionDirectory
  | [] => d
  | op :: ops => (d.apply op).run ops

/-! ## What each operation does to the ids and the active mark -/

section Ops

variable (d : SessionDirectory)

theorem ids_modify (id : DeviceId) {f : DeviceSession → DeviceSession}
    (hf : ∀ s, (f s).id = s.id) : sessionIds (d.modify id f).sessions = sessionIds d.sessions := by
  simp only [modify, sessionIds, List.map_map]
  apply List.map_congr_left
  intro s _
  simp only [Function.comp_apply]
  split
  · exact hf s
  · rfl

theorem ascending_modify (id : DeviceId) {f : DeviceSession → DeviceSession}
    (hf : ∀ s, (f s).id = s.id) (h : IdsAscending d.sessions) :
    IdsAscending (d.modify id f).sessions := by
  have hmap : (d.modify id f).sessions.map (·.id.val) = d.sessions.map (·.id.val) := by
    have hids := congrArg (List.map DeviceId.val) (ids_modify d id hf)
    simpa [sessionIds, List.map_map, Function.comp_def] using hids
  have hvals : (d.sessions.map (·.id.val)).Pairwise (· < ·) := List.pairwise_map.mpr h
  rw [← hmap] at hvals
  exact List.pairwise_map.mp hvals

@[simp] theorem modify_active (id : DeviceId) (f : DeviceSession → DeviceSession) :
    (d.modify id f).active = d.active := rfl

@[simp] theorem persist_sessions (id : DeviceId) (endpoint : Endpoint) (now : Instant) :
    (d.persist id endpoint now).sessions = d.sessions := by
  unfold persist
  split <;> rfl

@[simp] theorem persist_active (id : DeviceId) (endpoint : Endpoint) (now : Instant) :
    (d.persist id endpoint now).active = d.active := by
  unfold persist
  split <;> rfl

@[simp] theorem discovered_active (id : DeviceId) (endpoint : Endpoint) (now : Instant) :
    (d.discovered id endpoint now).2.active = d.active := by
  unfold discovered
  split <;> rfl

/-- Forgetting a device drops its session and, if it was active, the active mark; only the
store may change besides. -/
theorem forget_eq (id : DeviceId) :
    ∃ store, d.forget id =
      { d with sessions := d.sessions.filter (·.id != id),
               active := if d.active == some id then none else d.active, store } := by
  unfold forget
  generalize (if d.active == some id then none else d.active) = act
  dsimp only
  split
  · split
    · split
      · exact ⟨_, rfl⟩
      · exact ⟨d.store, rfl⟩
    · exact ⟨d.store, rfl⟩
  · exact ⟨d.store, rfl⟩

theorem forget_sessions (id : DeviceId) :
    (d.forget id).sessions = d.sessions.filter (·.id != id) := by
  obtain ⟨store, h⟩ := d.forget_eq id
  rw [h]

theorem forget_active (id : DeviceId) :
    (d.forget id).active = if d.active == some id then none else d.active := by
  obtain ⟨store, h⟩ := d.forget_eq id
  rw [h]

/-- The session an activation stores, under the id it activates. -/
theorem activate_eq (id : DeviceId) (endpoint : Endpoint) (now : Instant) :
    ∃ s : DeviceSession, s.id = id ∧
      (d.activate id endpoint now).sessions =
        upsertSession s (d.sessions.filter fun s => s.id == id || s.endpoint != endpoint) ∧
      (d.activate id endpoint now).active = some id := by
  unfold activate
  dsimp only
  rw [persist_sessions, persist_active]
  split
  · rename_i s hs
    have hid : s.id = id := by simpa using List.find?_some hs
    exact ⟨{ s with endpoint, lastSeen := now }, hid, rfl, rfl⟩
  · exact ⟨DeviceSession.new id endpoint now, rfl, rfl, rfl⟩

end Ops

/-! ## The invariant -/

/-- What every directory satisfies. -/
structure WellFormed (d : SessionDirectory) : Prop where
  /-- Ids strictly increase: each device has one session. -/
  ascending : IdsAscending d.sessions
  /-- The active id is the id of a stored session. -/
  active_stored : ∀ id, d.active = some id → id ∈ sessionIds d.sessions

/-- A directory with no sessions and none active. -/
theorem wellFormed_empty (store : ConfigStore) (expiry : Span) :
    WellFormed { store, expiry } :=
  ⟨List.Pairwise.nil, fun _ h => nomatch h⟩

namespace WellFormed

variable {d : SessionDirectory}

/-- Keeping the sessions that pass a test keeps the invariant, as long as the active mark
is dropped or names a session that passes. -/
theorem filter (hd : d.WellFormed) (p : DeviceSession → Bool) (act : Option DeviceId)
    (hact : ∀ id, act = some id → d.active = some id ∧ ∀ s ∈ d.sessions, s.id = id → p s)
    (d' : SessionDirectory) (hs : d'.sessions = d.sessions.filter p) (ha : d'.active = act) :
    d'.WellFormed := by
  refine ⟨hs ▸ hd.ascending.filter p, fun id hid => ?_⟩
  obtain ⟨hold, hpass⟩ := hact id (ha ▸ hid)
  obtain ⟨s, hs_mem, rfl⟩ := List.mem_map.mp (hd.active_stored id hold)
  rw [hs, sessionIds, List.mem_map]
  exact ⟨s, List.mem_filter.mpr ⟨hs_mem, hpass s hs_mem rfl⟩, rfl⟩

/-- Changing sessions without touching their ids keeps the invariant. -/
theorem modify (hd : d.WellFormed) (id : DeviceId) {f : DeviceSession → DeviceSession}
    (hf : ∀ s, (f s).id = s.id) : (d.modify id f).WellFormed :=
  ⟨ascending_modify d id hf hd.ascending, fun a ha => by
    rw [ids_modify d id hf]
    exact hd.active_stored a ha⟩

theorem persist (hd : d.WellFormed) (id : DeviceId) (endpoint : Endpoint) (now : Instant) :
    (d.persist id endpoint now).WellFormed :=
  ⟨by rw [persist_sessions]; exact hd.ascending, fun a ha => by
    rw [persist_sessions]
    exact hd.active_stored a (by rwa [persist_active] at ha)⟩

/-- Every operation keeps the invariant. -/
theorem apply (hd : d.WellFormed) (op : DirOp) : (d.apply op).WellFormed := by
  cases op with
  | discovered id endpoint now =>
    dsimp only [SessionDirectory.apply]
    -- a probe inserts a session of its id, new or refreshed
    have hins : ∀ s : DeviceSession,
        WellFormed { d with sessions := upsertSession s d.sessions } := fun s =>
      ⟨upsertSession_ascending s hd.ascending, fun a ha =>
        (mem_ids_upsertSession s d.sessions a).mpr (.inr (hd.active_stored a ha))⟩
    unfold discovered
    split
    · exact hins _
    · exact hins _
  | activate id endpoint now =>
    dsimp only [SessionDirectory.apply]
    obtain ⟨s, hid, hsess, hact⟩ := activate_eq d id endpoint now
    refine ⟨hsess ▸ upsertSession_ascending s (hd.ascending.filter _), fun a ha => ?_⟩
    rw [hact, Option.some.injEq] at ha
    rw [hsess, mem_ids_upsertSession]
    exact .inl (ha ▸ hid.symm)
  | deactivate =>
    dsimp only [SessionDirectory.apply]
    unfold SessionDirectory.deactivate
    split
    · exact hd
    · exact ⟨(hd.modify _ (f := fun s => { s with link := .disconnected }) fun _ => rfl).ascending,
        fun _ h => nomatch h⟩
  | close =>
    dsimp only [SessionDirectory.apply]
    unfold SessionDirectory.close
    split
    · exact hd
    · exact hd.filter _ none (fun _ h => nomatch h) _ rfl rfl
  | forget id =>
    refine hd.filter _ _ (fun a ha => ?_) _ (forget_sessions d id) (forget_active d id)
    split at ha
    · cases ha
    · rename_i hne
      refine ⟨ha, fun s _ hs => ?_⟩
      simp only [bne_iff_ne, ne_eq]
      rintro rfl
      exact hne (by simp [ha, hs])
  | setLink id link => exact hd.modify id fun _ => rfl
  | touch id now => exact hd.modify id fun _ => rfl
  | updateEndpoint id endpoint now =>
    dsimp only [SessionDirectory.apply]
    unfold SessionDirectory.updateEndpoint
    split
    · exact hd
    · have hm := hd.modify id (f := fun s => { s with viaPortal := false, endpoint }) fun _ => rfl
      dsimp only
      split
      · exact hm.persist _ _ _
      · exact hm
  | expireStale now =>
    refine hd.filter (fun s => !(d.expireStale now).1.contains s.id) _ (fun a ha => ?_) _ rfl
      (SessionDirectory.expireStale_active d now)
    split at ha
    · cases ha
    · rename_i hkept
      refine ⟨ha, fun s _ hs => ?_⟩
      rw [ha, ← hs] at hkept
      simpa using hkept

/-- Every run keeps the invariant. -/
theorem run (hd : d.WellFormed) (ops : List DirOp) : (d.run ops).WellFormed := by
  induction ops generalizing d with
  | nil => exact hd
  | cons op ops ih => exact ih (hd.apply op)

/-- Looking a device up finds its one session. -/
theorem get?_of_mem (hd : d.WellFormed) {s : DeviceSession} (hs : s ∈ d.sessions) :
    d.get? s.id = some s :=
  find?_id_of_mem hd.ascending hs

/-- The active id names a stored session. -/
theorem get?_active (hd : d.WellFormed) {id : DeviceId} (ha : d.active = some id) :
    ∃ s, d.get? id = some s := by
  obtain ⟨s, hs, rfl⟩ := List.mem_map.mp (hd.active_stored id ha)
  exact ⟨s, hd.get?_of_mem hs⟩

end WellFormed

end SessionDirectory

end Tether
