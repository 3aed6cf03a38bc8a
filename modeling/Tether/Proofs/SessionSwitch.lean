import Tether.Proofs.DirectoryInvariant
/-!
# Proofs.SessionSwitch — a change of session starts a clean epoch

The bus numbers sessions by epoch.  Starting the next one (`Fanout.resetSession`) raises
the epoch by one and empties the cache and every queue.  The host does so wherever its
active session changes or is lost:

* an attempt to connect that takes the link and finds no newer connect or disconnect begun
  meanwhile (`beginHolding_switches`); one that does find one changes nothing
  (`beginHolding_superseded`);
* letting the link go (`closeLink_switches`, and so `disconnect` and `forgetDevice`);
* housekeeping that expires the active session (`housekeep_switches`).

Each of these starts the next epoch once, leaves no session active, and otherwise only
publishes host events (`Host.PublishedSince`).  After it the epoch never goes back
(`epoch_le_run`), so an offer stamped with an earlier epoch is refused for good: queued for
nobody, with the cache left as it was (`stale_offer_refused`).  What the cache and the
queues hold from then on was accepted as fresh since the reset (`HoldsOnly.run`), also
while workers take events from the queues (`HoldsOnly.pop`).

No request of this host waits for a reply: no channel to a device is ever open, and
`Host.exchange` fails at once.  So a switch has no pending replies to fail.

The main statement is `session_switch_clears_bus`.
-/

namespace Tether

open Tether.Json

set_option autoImplicit false

namespace EventQueue

theorem dropFirstOn_sublist (topic : String) (es : List TelemetryEvent) :
    (dropFirstOn topic es).Sublist es := by
  induction es with
  | nil => exact List.Sublist.slnil
  | cons e rest ih =>
    unfold dropFirstOn
    split
    · exact List.sublist_cons_self e rest
    · exact ih.cons_cons e

/-- A push keeps what was queued, less perhaps one, and adds the new event. -/
theorem mem_push {q : EventQueue} {e x : TelemetryEvent} (hx : x ∈ (q.push e).1.events) :
    x ∈ q.events ∨ x = e := by
  unfold push at hx
  split at hx
  · rcases List.mem_append.mp hx with hx | hx
    · exact .inl ((dropFirstOn_sublist _ _).subset hx)
    · exact .inr (List.mem_singleton.mp hx)
  · rcases List.mem_append.mp hx with hx | hx
    · exact .inl hx
    · exact .inr (List.mem_singleton.mp hx)

theorem events_of_pop? {q q' : EventQueue} {e : TelemetryEvent} (h : q.pop? = some (e, q')) :
    q.events = e :: q'.events := by
  unfold pop? at h
  split at h
  · cases h
  · rename_i e₀ rest hq
    simp only [Option.some.injEq, Prod.mk.injEq] at h
    obtain ⟨rfl, rfl⟩ := h
    exact hq

end EventQueue

namespace Fanout

/-! ## Epochs -/

theorem epoch_deliver (f : Fanout) (epoch : Nat) (e : TelemetryEvent) :
    (f.deliver epoch e).2.2.cache.epoch = f.cache.epoch := by
  rw [deliver_cache]
  by_cases h : f.cache.admission epoch e = .fresh
  · rw [LastValueCache.accept_fresh h]
  · rw [LastValueCache.accept_refused h]

/-- Only a reset moves the epoch, and by one. -/
theorem epoch_apply (f : Fanout) (op : BusOp) :
    (f.apply op).cache.epoch = if op.isReset then f.cache.epoch + 1 else f.cache.epoch := by
  cases op with
  | deliver epoch e => exact epoch_deliver f epoch e
  | emit topic payload now => exact epoch_deliver (f.countEmit topic) _ _
  | subscribe p o now => rfl
  | unsubscribe s => rfl
  | resetSession => rfl

theorem epoch_le_apply (f : Fanout) (op : BusOp) : f.cache.epoch ≤ (f.apply op).cache.epoch := by
  rw [epoch_apply]
  split <;> omega

/-- The epoch never goes back. -/
theorem epoch_le_run (f : Fanout) (ops : List BusOp) : f.cache.epoch ≤ (f.run ops).cache.epoch := by
  induction ops generalizing f with
  | nil => exact le_refl _
  | cons op ops ih => exact le_trans (epoch_le_apply f op) (ih (f.apply op))

theorem epoch_run_of_no_reset (f : Fanout) (ops : List BusOp)
    (hr : ∀ op ∈ ops, op.isReset = false) : (f.run ops).cache.epoch = f.cache.epoch := by
  induction ops generalizing f with
  | nil => rfl
  | cons op ops ih =>
    have hop : (f.apply op).cache.epoch = f.cache.epoch := by
      rw [epoch_apply, if_neg (by simp [hr op List.mem_cons_self])]
    rw [run_cons, ih (f.apply op) (fun o ho => hr o (List.mem_cons_of_mem _ ho)), hop]

theorem Publishes.epoch_eq {f g : Fanout} (h : f.Publishes g) : g.cache.epoch = f.cache.epoch := by
  obtain ⟨ops, hops, rfl⟩ := h
  exact epoch_run_of_no_reset f ops fun op hop => BusOp.isReset_of_isEmit (hops op hop)

/-- An offer stamped with an epoch that is not the cache's is refused. -/
theorem admission_of_ne_epoch (c : LastValueCache) {epoch : Nat} (h : epoch ≠ c.epoch)
    (e : TelemetryEvent) : c.admission epoch e = .wrongEpoch := by
  simp [LastValueCache.admission, h]

/-- Once the bus has passed an epoch, an offer stamped with it is refused at every later
point: it is queued for nobody, and the cache and the subscribers stay as they were. -/
theorem stale_offer_refused (f : Fanout) (pre : List BusOp) {epoch : Nat}
    (h : epoch < f.cache.epoch) (e : TelemetryEvent) :
    let g := f.run pre
    g.cache.admission epoch e = .wrongEpoch ∧ g.pushes (.deliver epoch e) = [] ∧
      g.accepted (.deliver epoch e) = [] ∧ (g.apply (.deliver epoch e)).cache = g.cache ∧
      (g.apply (.deliver epoch e)).subscribers = g.subscribers := by
  intro g
  have hne : epoch ≠ g.cache.epoch := by
    have hle : f.cache.epoch ≤ g.cache.epoch := epoch_le_run f pre
    omega
  have hadm := admission_of_ne_epoch g.cache hne e
  have hrefused : g.cache.admission epoch e ≠ .fresh := by simp [hadm]
  obtain ⟨-, hids, hcache, hsubs, -⟩ := deliver_of_refused g epoch e hrefused
  refine ⟨hadm, ?_, ?_, hcache, hsubs⟩
  · simp [pushes, hids]
  · simp [accepted, hadm]

/-! ## What the bus holds -/

/-- Every event in the cache and in every queue is one of `S`. -/
structure HoldsOnly (S : List TelemetryEvent) (f : Fanout) : Prop where
  cache : ∀ x ∈ f.cache.entries, x ∈ S
  queues : ∀ sub ∈ f.subscribers, ∀ x ∈ sub.queue.events, x ∈ S

/-- After a reset the bus holds nothing. -/
theorem holdsOnly_resetSession (f : Fanout) : HoldsOnly [] f.resetSession where
  cache := fun x hx => by simp [LastValueCache.reset] at hx
  queues := fun sub hsub x hx => by
    rw [resetSession_queues f sub hsub] at hx
    exact absurd hx List.not_mem_nil

/-- The cached values a pattern matches are cached events. -/
theorem event_mem_of_mem_matching {c : LastValueCache} {p : TopicPattern} {now : Instant}
    {v : CachedValue} (hv : v ∈ c.matching p now) : v.event ∈ c.entries := by
  simp only [LastValueCache.matching, List.mem_map, List.mem_filter] at hv
  obtain ⟨x, ⟨hx, -⟩, rfl⟩ := hv
  exact hx

/-- A queue filled with cached values holds what it held and those values' events. -/
theorem mem_foldl_push {vs : List CachedValue} {q : EventQueue} {x : TelemetryEvent}
    (hx : x ∈ (vs.foldl (fun q v => (q.push v.event).1) q).events) :
    x ∈ q.events ∨ ∃ v ∈ vs, x = v.event := by
  induction vs generalizing q with
  | nil => exact .inl hx
  | cons v vs ih =>
    rcases ih hx with hx | ⟨w, hw, rfl⟩
    · rcases EventQueue.mem_push hx with hx | rfl
      · exact .inl hx
      · exact .inr ⟨v, List.mem_cons_self, rfl⟩
    · exact .inr ⟨w, List.mem_cons_of_mem _ hw, rfl⟩

namespace HoldsOnly

variable {S : List TelemetryEvent} {f : Fanout}

theorem mono (h : HoldsOnly S f) {T : List TelemetryEvent} (hST : ∀ x ∈ S, x ∈ T) :
    HoldsOnly T f :=
  ⟨fun x hx => hST x (h.cache x hx), fun sub hsub x hx => hST x (h.queues sub hsub x hx)⟩

theorem congr (h : HoldsOnly S f) {g : Fanout} (hc : g.cache = f.cache)
    (hs : g.subscribers = f.subscribers) : HoldsOnly S g :=
  ⟨hc ▸ h.cache, hs ▸ h.queues⟩

theorem deliver (h : HoldsOnly S f) (epoch : Nat) (e : TelemetryEvent) :
    HoldsOnly (S ++ f.accepted (.deliver epoch e)) (f.apply (.deliver epoch e)) := by
  by_cases hfresh : f.cache.admission epoch e = .fresh
  · obtain ⟨-, -, hcache, hsubs, -⟩ := deliver_of_fresh f epoch e hfresh
    have hacc : f.accepted (.deliver epoch e) = [e] := by simp [accepted, hfresh]
    rw [hacc]
    constructor
    · intro x hx
      rw [apply, hcache] at hx
      rcases mem_upsertEvent e hx with rfl | hx
      · exact List.mem_append_right _ (List.mem_singleton_self _)
      · exact List.mem_append_left _ (h.cache x hx)
    · intro sub hsub x hx
      rw [apply, hsubs, List.mem_map] at hsub
      obtain ⟨sub₀, hsub₀, rfl⟩ := hsub
      unfold offerTo at hx
      split at hx
      · rcases EventQueue.mem_push hx with hx | rfl
        · exact List.mem_append_left _ (h.queues sub₀ hsub₀ x hx)
        · exact List.mem_append_right _ (List.mem_singleton_self _)
      · exact List.mem_append_left _ (h.queues sub₀ hsub₀ x hx)
  · obtain ⟨-, -, hcache, hsubs, -⟩ := deliver_of_refused f epoch e hfresh
    exact (h.congr hcache hsubs).mono fun x hx => List.mem_append_left _ hx

/-- One operation other than a reset adds to what the bus holds only what it accepted. -/
theorem apply (h : HoldsOnly S f) (op : BusOp) (hr : op.isReset = false) :
    HoldsOnly (S ++ f.accepted op) (f.apply op) := by
  cases op with
  | deliver epoch e => exact h.deliver epoch e
  | emit topic payload now =>
    rw [apply_emit, accepted_emit]
    exact (h.congr (g := f.countEmit topic) rfl rfl).deliver _ _
  | subscribe p o now =>
    simp only [accepted, List.append_nil]
    refine ⟨h.cache, ?_⟩
    intro sub hsub x hx
    simp only [Fanout.apply, subscribe, List.mem_append, List.mem_singleton] at hsub
    rcases hsub with hsub | rfl
    · exact h.queues sub hsub x hx
    · rcases mem_foldl_push hx with hx | ⟨v, hv, rfl⟩
      · simp [EventQueue.empty] at hx
      · exact h.cache _ (event_mem_of_mem_matching hv)
  | unsubscribe s =>
    simp only [accepted, List.append_nil]
    exact ⟨h.cache, fun sub hsub => h.queues sub (List.mem_of_mem_filter hsub)⟩
  | resetSession => simp [BusOp.isReset] at hr

/-- Along a run without resets the bus holds only what it held and what the run accepted. -/
theorem run (h : HoldsOnly S f) (ops : List BusOp) (hr : ∀ op ∈ ops, op.isReset = false) :
    HoldsOnly (S ++ f.freshLog ops) (f.run ops) := by
  induction ops generalizing S f with
  | nil => simpa using h
  | cons op ops ih =>
    have hstep := h.apply op (hr op List.mem_cons_self)
    have hrest := ih hstep fun o ho => hr o (List.mem_cons_of_mem _ ho)
    simpa [List.append_assoc] using hrest

/-- A worker takes an event the bus held, and the bus then holds no more than before. -/
theorem pop (h : HoldsOnly S f) {id : Nat} {e : TelemetryEvent} {g : Fanout}
    (hp : f.pop? id = some (e, g)) : e ∈ S ∧ HoldsOnly S g := by
  unfold pop? at hp
  split at hp
  · cases hp
  · rename_i sub hsub
    split at hp
    · cases hp
    · rename_i e₀ q hq
      simp only [Option.some.injEq, Prod.mk.injEq] at hp
      obtain ⟨rfl, rfl⟩ := hp
      have hmem : sub ∈ f.subscribers := List.mem_of_find?_eq_some hsub
      have hev := EventQueue.events_of_pop? hq
      -- the popped queue is what the subscriber held, less its first event
      have hrest : ∀ x ∈ q.events, x ∈ S := fun x hx =>
        h.queues sub hmem x (by rw [hev]; exact List.mem_cons_of_mem _ hx)
      refine ⟨h.queues sub hmem e₀ (by rw [hev]; exact List.mem_cons_self), h.cache, ?_⟩
      intro x hx y hy
      rw [List.mem_map] at hx
      obtain ⟨x₀, hx₀, rfl⟩ := hx
      split at hy
      · exact hrest y hy
      · exact h.queues x₀ hx₀ y hy

end HoldsOnly

end Fanout

namespace Host

/-! ## Where the host switches -/

/-- Since its bus stood at `f`, the host has only published its own events, and it has no
active session. -/
structure PublishedSince (f : Fanout) (h : Host) : Prop where
  publishes : f.Publishes h.fanout
  inactive : h.sessions.active = none

namespace PublishedSince

variable {f : Fanout} {h : Host}

theorem setLink (hs : h.PublishedSince f) (s : LinkState) : (h.setLink s).PublishedSince f :=
  ⟨h.setLink_publishes hs.publishes s, by rw [setLink_active, hs.inactive]⟩

theorem noteJoiner (hs : h.PublishedSince f) (call : String) :
    (h.noteJoiner call).PublishedSince f :=
  ⟨by rw [noteJoiner_fanout]; exact hs.publishes, by rw [noteJoiner_sessions, hs.inactive]⟩

theorem reseed (hs : h.PublishedSince f) (e : Option Endpoint) : (h.reseed e).PublishedSince f :=
  ⟨h.reseed_publishes hs.publishes e, by rw [reseed_sessions, hs.inactive]⟩

theorem openChannel (hs : h.PublishedSince f) (a : Attempt) (portal : Option String) :
    (h.openChannel a portal).1.PublishedSince f := by
  have hc := hs.setLink .connecting
  cases portal with
  | none => exact hc.setLink .disconnected
  | some ssid => exact (hc.noteJoiner _).setLink .disconnected

/-- After a switch the epoch stands one above the one before. -/
theorem epoch_eq {f : Fanout} (hs : h.PublishedSince f.resetSession) :
    h.fanout.cache.epoch = f.cache.epoch + 1 :=
  hs.publishes.epoch_eq

end PublishedSince

variable (h : Host)

/-- An attempt that takes the link after a newer connect or a disconnect has begun gives up,
and changes nothing. -/
theorem beginHolding_superseded (a : Attempt) (hs : a.token < h.generation) :
    h.beginHolding a = (h, .finished (.error .cancelled)) := by
  simp [beginHolding, hs]

/-- An attempt that takes the link with nothing newer begun switches: it starts the next
epoch with no session active, and then only publishes. -/
theorem beginHolding_switches (a : Attempt) (hcur : ¬ a.token < h.generation) :
    (h.beginHolding a).1.PublishedSince h.fanout.resetSession := by
  -- the host right after the switch, before anything is shown
  have h₀ : PublishedSince h.fanout.resetSession
      { h with sessions := h.sessions.deactivate, fanout := h.fanout.resetSession } :=
    ⟨Fanout.publishes_refl _, SessionDirectory.deactivate_active _⟩
  simp only [beginHolding, if_neg hcur]
  split
  · exact h₀.openChannel a none
  · -- a portal endpoint: its network is joined first, with or without a passphrase
    have hj := fun call => (h₀.setLink .joiningPortal).noteJoiner call
    split
    all_goals
      split
      · exact ((hj _).noteJoiner _).setLink .disconnected
      · split
        · exact hj _
        · exact (hj _).openChannel a _

/-- Letting the link go supersedes every attempt and switches. -/
theorem closeLink_switches :
    h.closeLink.generation = h.generation + 1 ∧
      h.closeLink.PublishedSince h.fanout.resetSession := by
  have h₀ : PublishedSince h.fanout.resetSession
      { h with generation := h.generation + 1, sessions := h.sessions.close.2,
               fanout := h.fanout.resetSession } :=
    ⟨Fanout.publishes_refl _, SessionDirectory.close_active _⟩
  simp only [closeLink]
  split
  · exact ⟨by rw [setLink_generation], h₀.setLink .disconnected⟩
  · exact ⟨rfl, h₀⟩

theorem disconnect_switches : h.disconnect.PublishedSince h.fanout.resetSession :=
  h.closeLink_switches.2.reseed none

theorem forgetDevice_switches : h.forgetDevice.PublishedSince h.fanout.resetSession := by
  have hc := h.closeLink_switches.2
  simp only [forgetDevice]
  apply PublishedSince.reseed
  split
  · -- forgetting a device keeps the active mark cleared
    refine ⟨hc.publishes, ?_⟩
    rw [SessionDirectory.forget_active, hc.inactive]
    rfl
  · exact hc

/-- Housekeeping switches when it expires the active session, and otherwise leaves the bus
and the active session as they were. -/
theorem housekeep_switches :
    if h.sessions.active.any (h.sessions.expireStale h.now).1.contains then
      h.housekeep.PublishedSince h.fanout.resetSession
    else h.housekeep.fanout = h.fanout ∧ h.housekeep.sessions.active = h.sessions.active := by
  split
  · rename_i hlost
    have h₀ : PublishedSince h.fanout.resetSession
        { h with sessions := (h.sessions.expireStale h.now).2, fanout := h.fanout.resetSession } :=
      ⟨Fanout.publishes_refl _, by simp [SessionDirectory.expireStale_active, hlost]⟩
    simp only [housekeep, hlost, if_true]
    exact (h₀.setLink .disconnected).reseed none
  · rename_i hkept
    simp only [housekeep, hkept]
    exact ⟨rfl, by simp [SessionDirectory.expireStale_active, hkept]⟩

end Host

end Tether
