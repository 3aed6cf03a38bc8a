import Mathlib
import Tether.Bus.Handle
import Tether.Proofs.QueueWindow
/-!
# Proofs.BusCounters — the bus counts every outcome once

The bus keeps counters of what became of the events offered to it (`BusCounters`), and
shows them with the number of its subscribers (`Fanout.diagnostics`).  This module says what
they count, over any run of what the users of a bus do (`BusCall`): offering events,
publishing them, subscribing, starting the next session epoch, letting a worker take an
event, and cancelling, detaching or dropping the handle of a subscription.

Each offer of a run is recorded as the bus stood before it (`OfferRecord`): the admission
the cache gave it, how many subscribers' patterns matched its topic, and how many of their
queues had to evict an event to take it.  The counters then are sums over those records
(`OfferRecord.tally`): a refused offer counts once under its reason, an accepted one adds
its matching subscribers to `delivered` and its evictions to `dropped`, and nothing else
moves a counter (`BusClients.counters_run`).  A queue that takes an event evicts one exactly
when it reports a drop, since every queue keeps at least one event of a topic
(`EventQueue.push_snd_iff`).

The number of subscribers is the number of subscriptions not yet released.  The handles of
a run's subscriptions are held until their first cancel, detach or drop
(`HandleFate.ofCalls`); a cancel or a drop releases the subscription, a detach keeps it.
`BusClients.Tracks` ties the bus to those fates: every held handle names a subscriber, no two
share one, and the subscribers are as many as the subscriptions not released
(`Tracks.apply`).

The main statement is `bus_counts_every_outcome_once`.
-/

namespace Tether

open Tether.Json

set_option autoImplicit false

/-! ## Queues that report their evictions -/

namespace EventQueue

@[simp] theorem push_limit (q : EventQueue) (e : TelemetryEvent) : (q.push e).1.limit = q.limit := by
  rw [push_eq]

/-- A queue that keeps at least one event of a topic reports a drop exactly when the push
evicted an event: the queue grew by the new event and lost one. -/
theorem push_snd_iff {q : EventQueue} (hpos : 0 < q.limit) (e : TelemetryEvent) :
    (q.push e).2 = true ↔ (q.push e).1.events.length ≤ q.events.length := by
  rw [push_eq]
  by_cases hfull : q.limit ≤ q.countOn e.topic
  · have hany : q.events.any (·.topic == e.topic) = true := by
      rw [List.any_eq_true]
      exact List.countP_pos_iff.mp (Nat.lt_of_lt_of_le hpos hfull)
    have hlen : 0 < q.events.length := List.length_pos_iff.mpr (by
      rintro hnil
      simp [hnil] at hany)
    simp only [if_pos hfull, decide_eq_true hfull, List.length_append, List.length_eraseP, hany,
      if_true, List.length_singleton, true_iff]
    omega
  · simp [hfull]

end EventQueue

/-! ## What the users of a bus do -/

/-- A call on a bus by one of its users.  The handle of a subscription is named by its place
among the subscriptions of the run, counting from zero. -/
inductive BusCall where
  /-- Offers an event received during `epoch`. -/
  | deliver (epoch : Nat) (e : TelemetryEvent)
  /-- Publishes a host event on a topic. -/
  | emit (topic : String) (payload : Json) (now : Instant)
  /-- Subscribes to a pattern, keeping the handle. -/
  | subscribe (pattern : TopicPattern) (owner : Option PluginId) (now : Instant)
  /-- Starts the next session epoch. -/
  | resetSession
  /-- The worker of a subscriber takes its oldest queued event. -/
  | take (id : Nat)
  /-- Cancels the handle of the `k`-th subscription. -/
  | cancel (k : Nat)
  /-- Detaches the handle of the `k`-th subscription. -/
  | detach (k : Nat)
  /-- Drops the handle of the `k`-th subscription. -/
  | drop (k : Nat)

/-- A bus and the handles of the subscriptions made on it, in the order they were made; a
slot is empty once its handle has been given up. -/
structure BusClients where
  fanout : Fanout
  handles : List (Option SubscriptionHandle) := []

namespace BusClients

/-- Gives up the handle of the `k`-th subscription, if it is still held. -/
def giveUp (c : BusClients) (k : Nat) (act : SubscriptionHandle → Fanout → Fanout) : BusClients :=
  match c.handles[k]? with
  | some (some h) => { fanout := act h c.fanout, handles := c.handles.set k none }
  | _ => c

/-- The bus after the worker of subscriber `id` takes its oldest event, if it has one. -/
def takeFrom (f : Fanout) (id : Nat) : Fanout :=
  match f.pop? id with
  | some (_, f') => f'
  | none => f

/-- One call. -/
def apply (c : BusClients) : BusCall → BusClients
  | .deliver epoch e => { c with fanout := (c.fanout.deliver epoch e).2.2 }
  | .emit topic payload now => { c with fanout := (c.fanout.emit topic payload now).2.2 }
  | .subscribe pattern owner now =>
    { fanout := (c.fanout.subscribeHandle pattern owner now).2,
      handles := c.handles ++ [some (c.fanout.subscribeHandle pattern owner now).1] }
  | .resetSession => { c with fanout := c.fanout.resetSession }
  | .take id => { c with fanout := takeFrom c.fanout id }
  | .cancel k => c.giveUp k SubscriptionHandle.cancel
  | .detach k => c.giveUp k SubscriptionHandle.detach
  | .drop k => c.giveUp k SubscriptionHandle.drop

/-- The bus and the handles after a run. -/
def run (c : BusClients) : List BusCall → BusClients
  | [] => c
  | call :: calls => (c.apply call).run calls

@[simp] theorem run_nil (c : BusClients) : c.run [] = c := rfl
@[simp] theorem run_cons (c : BusClients) (call : BusCall) (calls : List BusCall) :
    c.run (call :: calls) = (c.apply call).run calls := rfl

theorem run_append (c : BusClients) (calls calls' : List BusCall) :
    c.run (calls ++ calls') = (c.run calls).run calls' := by
  induction calls generalizing c with
  | nil => rfl
  | cons call calls ih => exact ih (c.apply call)

end BusClients

/-! ## What the counters should say -/

/-- Whether an admission refused a repeated or reordered sequence number. -/
def Admission.isDuplicate : Admission → Bool
  | .duplicate _ => true
  | _ => false

/-- An offer as the bus stood before it: the admission the cache gave it, how many
subscribers' patterns match its topic, and how many of those queues evict an event to take
it. -/
structure OfferRecord where
  admission : Admission
  matching : Nat
  evicting : Nat

/-- The record of an offer of `e` during `epoch`. -/
def Fanout.offerRecord (f : Fanout) (epoch : Nat) (e : TelemetryEvent) : OfferRecord :=
  let subs := f.subscribers.filter (·.pattern.matchesTopic e.topic)
  { admission := f.cache.admission epoch e, matching := subs.length,
    evicting := (subs.filter fun s => (s.queue.push e).1.events.length ≤ s.queue.events.length).length }

namespace OfferRecord

/-- What a list of offers should add to the counters: one duplicate or stale offer for each
offer refused for that reason, and for the accepted ones the subscribers matched and the
events evicted. -/
def tally (log : List OfferRecord) : BusCounters :=
  { delivered := ((log.filter (·.admission == .fresh)).map (·.matching)).sum,
    duplicates := (log.filter (·.admission.isDuplicate)).length,
    staleEpoch := (log.filter (·.admission == .wrongEpoch)).length,
    dropped := ((log.filter (·.admission == .fresh)).map (·.evicting)).sum,
    rejectedCommands := 0,
    handlerPanics := 0 }

end OfferRecord

/-- Counters added field by field. -/
def BusCounters.add (a b : BusCounters) : BusCounters :=
  { delivered := a.delivered + b.delivered, duplicates := a.duplicates + b.duplicates,
    staleEpoch := a.staleEpoch + b.staleEpoch, dropped := a.dropped + b.dropped,
    rejectedCommands := a.rejectedCommands + b.rejectedCommands,
    handlerPanics := a.handlerPanics + b.handlerPanics }

namespace BusClients

/-- The offers a call makes: one for an offer or a publication, none otherwise. -/
def offers (c : BusClients) : BusCall → List OfferRecord
  | .deliver epoch e => [c.fanout.offerRecord epoch e]
  | .emit topic payload now => [c.fanout.offerRecord c.fanout.epoch (c.fanout.emitted topic payload now)]
  | _ => []

/-- Every offer of a run, in order. -/
def offerLog (c : BusClients) : List BusCall → List OfferRecord
  | [] => []
  | call :: calls => c.offers call ++ (c.apply call).offerLog calls

end BusClients

/-! ## Counting -/

theorem OfferRecord.tally_append (l l' : List OfferRecord) :
    tally (l ++ l') = (tally l).add (tally l') := by
  simp [tally, BusCounters.add, List.filter_append]

theorem BusCounters.add_assoc (a b c : BusCounters) : (a.add b).add c = a.add (b.add c) := by
  simp only [BusCounters.add, Nat.add_assoc]

@[simp] theorem BusCounters.add_tally_nil (a : BusCounters) : a.add (OfferRecord.tally []) = a := by
  simp [BusCounters.add, OfferRecord.tally]

@[simp] theorem BusCounters.empty_add (a : BusCounters) : ({} : BusCounters).add a = a := by
  cases a
  simp [BusCounters.add]

/-- Counters no larger than others, field by field. -/
instance : LE BusCounters where
  le a b := a.delivered ≤ b.delivered ∧ a.duplicates ≤ b.duplicates ∧
    a.staleEpoch ≤ b.staleEpoch ∧ a.dropped ≤ b.dropped ∧
    a.rejectedCommands ≤ b.rejectedCommands ∧ a.handlerPanics ≤ b.handlerPanics

theorem BusCounters.le_add (a b : BusCounters) : a ≤ a.add b :=
  ⟨Nat.le_add_right _ _, Nat.le_add_right _ _, Nat.le_add_right _ _, Nat.le_add_right _ _,
    Nat.le_add_right _ _, Nat.le_add_right _ _⟩

/-- Every queue of the bus keeps at least one event of a topic. -/
def Fanout.QueuesKeep (f : Fanout) : Prop := ∀ s ∈ f.subscribers, 0 < s.queue.limit

namespace Fanout

variable {f : Fanout}

/-- The drops an offer reports are the queues it makes evict. -/
theorem pushMatching_dropped (e : TelemetryEvent) {subs : List Subscriber}
    (hq : ∀ s ∈ subs, 0 < s.queue.limit) :
    (pushMatching e subs).2.2 = ((subs.filter (·.pattern.matchesTopic e.topic)).filter
      fun s => (s.queue.push e).1.events.length ≤ s.queue.events.length).length := by
  induction subs with
  | nil => rfl
  | cons s rest ih =>
    have hrest := ih (fun x hx => hq x (List.mem_cons_of_mem s hx))
    have hs := EventQueue.push_snd_iff (hq s (List.mem_cons_self)) e
    by_cases hm : s.pattern.matchesTopic e.topic = true
    · by_cases hev : (s.queue.push e).1.events.length ≤ s.queue.events.length
      · simp [pushMatching, hm, hrest, hs.mpr hev, hev]
      · have hout : (s.queue.push e).2 = false := Bool.eq_false_iff.mpr fun h => hev (hs.mp h)
        simp [pushMatching, hm, hrest, hout, hev]
    · simp [pushMatching, hm, hrest]

/-- An offer adds its record to the counters. -/
theorem deliver_counters (hq : f.QueuesKeep) (epoch : Nat) (e : TelemetryEvent) :
    (f.deliver epoch e).2.2.counters = f.counters.add (OfferRecord.tally [f.offerRecord epoch e]) := by
  unfold deliver
  rw [LastValueCache.accept]
  cases hadm : f.cache.admission epoch e with
  | fresh =>
    simp only [pushMatching_ids, List.length_map, pushMatching_dropped e hq]
    simp [BusCounters.add, OfferRecord.tally, offerRecord, hadm, Admission.isDuplicate]
  | duplicate last =>
    simp [BusCounters.add, OfferRecord.tally, offerRecord, hadm, Admission.isDuplicate]
  | wrongEpoch =>
    simp [BusCounters.add, OfferRecord.tally, offerRecord, hadm, Admission.isDuplicate]

theorem offerTo_limit (e : TelemetryEvent) (s : Subscriber) :
    (offerTo e s).queue.limit = s.queue.limit := by
  unfold offerTo
  split
  · exact EventQueue.push_limit s.queue e
  · rfl

theorem QueuesKeep.deliver (hq : f.QueuesKeep) (epoch : Nat) (e : TelemetryEvent) :
    (f.deliver epoch e).2.2.QueuesKeep := by
  intro s hs
  by_cases h : f.cache.admission epoch e = .fresh
  · rw [(deliver_of_fresh f epoch e h).2.2.2.1, List.mem_map] at hs
    obtain ⟨s₀, hs₀, rfl⟩ := hs
    rw [offerTo_limit]
    exact hq s₀ hs₀
  · rw [(deliver_of_refused f epoch e h).2.2.2.1] at hs
    exact hq s hs

theorem QueuesKeep.subscribe (hq : f.QueuesKeep) (p : TopicPattern) (o : Option PluginId)
    (now : Instant) : (f.subscribe p o now).2.QueuesKeep := by
  intro s hs
  simp only [Fanout.subscribe, List.mem_append, List.mem_singleton] at hs
  rcases hs with hs | rfl
  · exact hq s hs
  · -- a new queue keeps `max perTopic 1` events of a topic, and pushes keep its limit
    have hfold : ∀ (vs : List CachedValue) (q : EventQueue),
        (vs.foldl (fun q v => (q.push v.event).1) q).limit = q.limit := by
      intro vs
      induction vs with
      | nil => intro q; rfl
      | cons v vs ih => intro q; rw [List.foldl_cons, ih, EventQueue.push_limit]
    dsimp only
    rw [hfold]
    simp [EventQueue.empty]

theorem QueuesKeep.resetSession (hq : f.QueuesKeep) : f.resetSession.QueuesKeep := by
  intro s hs
  simp only [Fanout.resetSession, List.mem_map] at hs
  obtain ⟨s₀, hs₀, rfl⟩ := hs
  exact hq s₀ hs₀

theorem QueuesKeep.unsubscribe (hq : f.QueuesKeep) (id : Nat) : (f.unsubscribe id).QueuesKeep :=
  fun s hs => hq s (List.mem_of_mem_filter hs)

/-- Taking an event changes the queue of the subscriber it comes from, nothing else. -/
theorem takeFrom_cases (id : Nat) :
    BusClients.takeFrom f id = f ∨ ∃ s ∈ f.subscribers, ∃ e q, s.queue.pop? = some (e, q) ∧
      BusClients.takeFrom f id =
        { f with subscribers := f.subscribers.map fun x => if x.id == id then { x with queue := q } else x } := by
  unfold BusClients.takeFrom
  cases hp : f.pop? id with
  | none => exact .inl rfl
  | some r =>
    obtain ⟨e, f'⟩ := r
    unfold pop? at hp
    cases hs : f.subscribers.find? (·.id == id) with
    | none => rw [hs] at hp; cases hp
    | some s =>
      rw [hs] at hp
      dsimp only at hp
      cases hq : s.queue.pop? with
      | none => rw [hq] at hp; cases hp
      | some r' =>
        obtain ⟨e', q⟩ := r'
        rw [hq] at hp
        cases hp
        exact .inr ⟨s, List.mem_of_find?_eq_some hs, _, q, hq, rfl⟩

theorem pop?_limit {q q' : EventQueue} {e : TelemetryEvent} (h : q.pop? = some (e, q')) :
    q'.limit = q.limit := by
  unfold EventQueue.pop? at h
  split at h
  · cases h
  · cases h
    rfl

theorem QueuesKeep.takeFrom (hq : f.QueuesKeep) (id : Nat) :
    (BusClients.takeFrom f id).QueuesKeep := by
  rcases takeFrom_cases (f := f) id with h | ⟨s, hs, e, q, hpop, h⟩
  · rw [h]
    exact hq
  · rw [h]
    intro x hx
    simp only [List.mem_map] at hx
    obtain ⟨x₀, hx₀, rfl⟩ := hx
    split
    · rw [pop?_limit hpop]
      exact hq s hs
    · exact hq x₀ hx₀

theorem takeFrom_roster (id : Nat) : (BusClients.takeFrom f id).roster = f.roster := by
  rcases takeFrom_cases (f := f) id with h | ⟨s, hs, e, q, hpop, h⟩
  · rw [h]
  · rw [h]
    simp only [roster, List.map_map]
    congr 1
    funext x
    simp only [Function.comp_apply]
    split <;> rfl

theorem takeFrom_keeps (id : Nat) :
    (BusClients.takeFrom f id).cache = f.cache ∧ (BusClients.takeFrom f id).nextId = f.nextId ∧
      (BusClients.takeFrom f id).counters = f.counters := by
  rcases takeFrom_cases (f := f) id with h | ⟨s, hs, e, q, hpop, h⟩ <;> rw [h] <;> exact ⟨rfl, rfl, rfl⟩

end Fanout

/-! ## Handles -/

namespace SubscriptionHandle

variable {h : SubscriptionHandle} (f : Fanout)

theorem drop_of_active (ha : h.active = true) : h.drop f = f.unsubscribe h.id := by
  simp [drop, release, ha]

/-- A cancel releases an active handle once; dropping the handle after does nothing. -/
theorem cancel_of_active (ha : h.active = true) : h.cancel f = f.unsubscribe h.id := by
  simp [cancel, drop, release, ha]

/-- A detached handle is dropped without releasing its subscription. -/
theorem detach_eq (h : SubscriptionHandle) : h.detach f = f := by
  simp [detach, drop, release]

end SubscriptionHandle

namespace Fanout

variable {f : Fanout}

/-- Removing a subscriber that is there removes one, since no two share an id. -/
theorem unsubscribe_length (hf : f.Sound) {id : Nat} (hid : id ∈ f.roster.map (·.1)) :
    (f.unsubscribe id).subscribers.length + 1 = f.subscribers.length := by
  have hids : f.roster.map (·.1) = f.subscribers.map (·.id) := by simp [roster]
  rw [hids] at hid
  have hnd : (f.subscribers.map (·.id)).Nodup := hids ▸ hf.ids_nodup
  have hone : f.subscribers.countP (fun s => s.id == id) = 1 := by
    have := List.count_eq_one_of_mem hnd hid
    rwa [List.count, List.countP_map] at this
  have hsplit := List.length_eq_countP_add_countP (fun s : Subscriber => s.id == id)
    (l := f.subscribers)
  have hrest : (f.unsubscribe id).subscribers.length =
      f.subscribers.countP (fun s => ¬(s.id == id)) := by
    rw [unsubscribe, ← List.countP_eq_length_filter]
    apply List.countP_congr
    simp
  omega

end Fanout

/-- Giving up a handle leaves the bus as it was, or removes the handle's subscriber. -/
theorem SubscriptionHandle.giveUp_cases (h : SubscriptionHandle) (f : Fanout)
    {act : SubscriptionHandle → Fanout → Fanout}
    (hact : act = SubscriptionHandle.cancel ∨ act = SubscriptionHandle.detach ∨
      act = SubscriptionHandle.drop) :
    act h f = f ∨ act h f = f.unsubscribe h.id := by
  rcases hact with rfl | rfl | rfl
  · cases ha : h.active
    · left; simp [SubscriptionHandle.cancel, SubscriptionHandle.drop, SubscriptionHandle.release, ha]
    · exact .inr (SubscriptionHandle.cancel_of_active f ha)
  · exact .inl (SubscriptionHandle.detach_eq f h)
  · cases ha : h.active
    · left; simp [SubscriptionHandle.drop, SubscriptionHandle.release, ha]
    · exact .inr (SubscriptionHandle.drop_of_active f ha)

namespace BusClients

variable {c : BusClients}

theorem giveUp_cases (k : Nat) (act : SubscriptionHandle → Fanout → Fanout) :
    ((∀ h, c.handles[k]? ≠ some (some h)) ∧ c.giveUp k act = c) ∨
      ∃ h, c.handles[k]? = some (some h) ∧
        c.giveUp k act = { fanout := act h c.fanout, handles := c.handles.set k none } := by
  unfold giveUp
  cases hk : c.handles[k]? with
  | none => exact .inl ⟨fun _ hs => (by cases hs), rfl⟩
  | some o =>
    cases o with
    | none => exact .inl ⟨fun _ hs => (by cases hs), rfl⟩
    | some h => exact .inr ⟨h, rfl, rfl⟩

/-- Cancelling, detaching or dropping a handle leaves the bus as it was, or removes one
subscriber from it. -/
theorem giveUp_fanout (k : Nat) {act : SubscriptionHandle → Fanout → Fanout}
    (hact : act = SubscriptionHandle.cancel ∨ act = SubscriptionHandle.detach ∨
      act = SubscriptionHandle.drop) :
    (c.giveUp k act).fanout = c.fanout ∨ ∃ id, (c.giveUp k act).fanout = c.fanout.unsubscribe id := by
  rcases giveUp_cases (c := c) k act with ⟨-, hc⟩ | ⟨h, -, hc⟩
  · exact .inl (by rw [hc])
  · rw [hc]
    exact (h.giveUp_cases c.fanout hact).imp id fun he => ⟨h.id, he⟩

/-- Giving up a handle moves no counter. -/
theorem giveUp_counters (k : Nat) {act : SubscriptionHandle → Fanout → Fanout}
    (hact : act = SubscriptionHandle.cancel ∨ act = SubscriptionHandle.detach ∨
      act = SubscriptionHandle.drop) :
    (c.giveUp k act).fanout.counters = c.fanout.counters := by
  rcases giveUp_fanout (c := c) k hact with he | ⟨id, he⟩ <;> rw [he]
  rfl

/-- What a call adds to the counters is what its offers should. -/
theorem counters_apply (hq : c.fanout.QueuesKeep) (call : BusCall) :
    (c.apply call).fanout.counters = c.fanout.counters.add (OfferRecord.tally (c.offers call)) := by
  cases call with
  | deliver epoch e => exact Fanout.deliver_counters hq epoch e
  | emit topic payload now =>
    -- a publication is an offer of its event in the current epoch
    exact Fanout.deliver_counters (f := c.fanout.countEmit topic) hq _ _
  | subscribe p o now => simp [apply, offers, Fanout.subscribeHandle, Fanout.subscribe]
  | resetSession => simp [apply, offers, Fanout.resetSession]
  | take id => simp [apply, offers, (Fanout.takeFrom_keeps id).2.2]
  | cancel k => simpa [apply, offers] using giveUp_counters k (.inl rfl)
  | detach k => simpa [apply, offers] using giveUp_counters k (.inr (.inl rfl))
  | drop k => simpa [apply, offers] using giveUp_counters k (.inr (.inr rfl))

theorem QueuesKeep.apply (hq : c.fanout.QueuesKeep) (call : BusCall) :
    (c.apply call).fanout.QueuesKeep := by
  have hgive : ∀ k {act : SubscriptionHandle → Fanout → Fanout},
      (act = SubscriptionHandle.cancel ∨ act = SubscriptionHandle.detach ∨
        act = SubscriptionHandle.drop) → (c.giveUp k act).fanout.QueuesKeep := by
    intro k act hact
    rcases giveUp_fanout (c := c) k hact with he | ⟨id, he⟩ <;> rw [he]
    · exact hq
    · exact Fanout.QueuesKeep.unsubscribe hq id
  cases call with
  | deliver epoch e => exact Fanout.QueuesKeep.deliver hq epoch e
  | emit topic payload now => exact Fanout.QueuesKeep.deliver (f := c.fanout.countEmit topic) hq _ _
  | subscribe p o now => exact Fanout.QueuesKeep.subscribe hq p o now
  | resetSession => exact Fanout.QueuesKeep.resetSession hq
  | take id => exact Fanout.QueuesKeep.takeFrom hq id
  | cancel k => exact hgive k (.inl rfl)
  | detach k => exact hgive k (.inr (.inl rfl))
  | drop k => exact hgive k (.inr (.inr rfl))

/-- Along a run the counters grow by what its offers should add. -/
theorem counters_run (hq : c.fanout.QueuesKeep) (calls : List BusCall) :
    (c.run calls).fanout.counters = c.fanout.counters.add (OfferRecord.tally (c.offerLog calls)) := by
  induction calls generalizing c with
  | nil => simp [offerLog]
  | cons call calls ih =>
    rw [run_cons, ih (QueuesKeep.apply hq call), counters_apply hq call, offerLog,
      OfferRecord.tally_append, BusCounters.add_assoc]

end BusClients

/-! ## Subscriptions not yet released -/

/-- How the handle of a subscription stands. -/
inductive HandleFate where
  /-- Still held. -/
  | held
  /-- Detached: the subscription lasts as long as the bus. -/
  | detached
  /-- Cancelled or dropped: the subscription is released. -/
  | released
  deriving DecidableEq

namespace HandleFate

/-- The fates after a call: a subscription adds a held handle, and the first cancel, detach or
drop of a held handle decides its fate. -/
def step (fs : List HandleFate) : BusCall → List HandleFate
  | .subscribe .. => fs ++ [.held]
  | .cancel k => if fs[k]? = some .held then fs.set k .released else fs
  | .detach k => if fs[k]? = some .held then fs.set k .detached else fs
  | .drop k => if fs[k]? = some .held then fs.set k .released else fs
  | _ => fs

/-- The fates of the handles of a run's subscriptions, in the order they were made. -/
def ofCalls : List HandleFate → List BusCall → List HandleFate
  | fs, [] => fs
  | fs, call :: calls => ofCalls (step fs call) calls

end HandleFate

namespace BusClients

/-- The bus and its handles stand as the fates `fs` say: a handle is held exactly where its
fate says so, every held handle is active and names its own subscriber, and the subscribers
are as many as the subscriptions not released. -/
structure Tracks (c : BusClients) (fs : List HandleFate) : Prop where
  sound : c.fanout.Sound
  queuesKeep : c.fanout.QueuesKeep
  length_eq : c.handles.length = fs.length
  held_iff : ∀ k : Nat, fs[k]? = some HandleFate.held ↔
    ∃ h : SubscriptionHandle, c.handles[k]? = some (some h)
  active : ∀ (k : Nat) (h : SubscriptionHandle), c.handles[k]? = some (some h) → h.active = true
  subscribed : ∀ (k : Nat) (h : SubscriptionHandle), c.handles[k]? = some (some h) →
    h.id ∈ c.fanout.roster.map (·.1)
  distinct : ∀ (k k' : Nat) (h h' : SubscriptionHandle), c.handles[k]? = some (some h) →
    c.handles[k']? = some (some h') → h.id = h'.id → k = k'
  count_eq : c.fanout.subscribers.length = fs.countP (· != HandleFate.released)

variable {c : BusClients} {fs : List HandleFate}

theorem tracks_new (rules : List (TopicPattern × Span)) (perTopic : Nat) :
    Tracks { fanout := Fanout.new { autostale := rules } perTopic } [] := by
  refine ⟨Fanout.sound_new rules perTopic, fun _ hs => by simp [Fanout.new] at hs, rfl,
    fun k => by simp, fun k h hk => by simp at hk, fun k h hk => by simp at hk,
    fun k k' h h' hk => by simp at hk, rfl⟩

/-- A call that changes only the bus, keeping its subscribers, keeps the fates. -/
theorem Tracks.of_roster (ht : c.Tracks fs) {f : Fanout} (hs : f.Sound) (hq : f.QueuesKeep)
    (hr : f.roster = c.fanout.roster) : Tracks { c with fanout := f } fs := by
  have hlen : f.subscribers.length = c.fanout.subscribers.length := by
    simpa [Fanout.roster] using congrArg List.length hr
  exact ⟨hs, hq, ht.length_eq, ht.held_iff, ht.active, fun k h hk => hr ▸ ht.subscribed k h hk,
    ht.distinct, hlen.trans ht.count_eq⟩

private theorem getElem?_append_singleton {α : Type} (l : List α) (x : α) (k : Nat) :
    (l ++ [x])[k]? = if k < l.length then l[k]? else if k = l.length then some x else none := by
  rw [List.getElem?_append, List.getElem?_singleton]
  split
  · rfl
  · by_cases hk : k = l.length
    · simp [hk]
    · rw [if_neg hk, if_neg (by omega)]

/-- A new subscription adds a held handle naming the new subscriber. -/
theorem Tracks.subscribe (ht : c.Tracks fs) (p : TopicPattern) (o : Option PluginId)
    (now : Instant) : Tracks (c.apply (.subscribe p o now)) (fs ++ [.held]) := by
  have hroster := Fanout.subscribe_roster (f := c.fanout) p o now
  have hslot : ∀ k, (c.handles ++ [some (c.fanout.subscribeHandle p o now).1])[k]? =
      if k < c.handles.length then c.handles[k]? else
        if k = c.handles.length then some (some { id := c.fanout.nextId }) else none := by
    intro k
    rw [getElem?_append_singleton]
    rfl
  -- an old handle names an old subscriber, whose id is below the new one
  have hold : ∀ (k : Nat) (h : SubscriptionHandle), c.handles[k]? = some (some h) →
      h.id < c.fanout.nextId := by
    intro k h hk
    obtain ⟨x, hx, hxid⟩ := List.mem_map.mp (ht.subscribed k h hk)
    exact hxid ▸ ht.sound.ids_lt x hx
  -- a handle of the new run is an old one, or the new subscription's
  have hnew : ∀ (k : Nat) (h : SubscriptionHandle),
      (c.apply (.subscribe p o now)).handles[k]? = some (some h) →
        c.handles[k]? = some (some h) ∨ (k = c.handles.length ∧ h = { id := c.fanout.nextId }) := by
    intro k h hk
    simp only [apply, hslot] at hk
    split at hk
    · exact .inl hk
    · split at hk
      · rename_i _ hkl
        exact .inr ⟨hkl, by simpa using hk.symm⟩
      · cases hk
  refine ⟨ht.sound.apply (.subscribe p o now), Fanout.QueuesKeep.subscribe ht.queuesKeep p o now,
    by simp [apply, ht.length_eq], fun k => ?_, fun k h hk => ?_, fun k h hk => ?_,
    fun k k' h h' hk hk' hid => ?_, ?_⟩
  · simp only [apply, hslot, getElem?_append_singleton, ← ht.length_eq]
    split
    · exact ht.held_iff k
    · split <;> simp
  · rcases hnew k h hk with hk | ⟨-, rfl⟩
    · exact ht.active k h hk
    · rfl
  · show h.id ∈ (c.fanout.subscribe p o now).2.roster.map (·.1)
    rw [hroster, List.map_append, List.mem_append]
    rcases hnew k h hk with hk | ⟨-, rfl⟩
    · exact .inl (ht.subscribed k h hk)
    · exact .inr (by simp)
  · rcases hnew k h hk with hk | ⟨hkl, rfl⟩ <;> rcases hnew k' h' hk' with hk' | ⟨hkl', rfl⟩
    · exact ht.distinct k k' h h' hk hk' hid
    · exact absurd hid (Nat.ne_of_lt (hold k h hk))
    · exact absurd hid.symm (Nat.ne_of_lt (hold k' h' hk'))
    · exact hkl.trans hkl'.symm
  · simp [apply, Fanout.subscribeHandle, Fanout.subscribe, ht.count_eq]

/-- Giving up the held handle `h` of slot `k` and leaving the bus as `f`: the slot's fate
becomes `fate`, provided `f` keeps the subscribers of the other handles and counts the
subscriptions the new fates do not release. -/
theorem Tracks.clear (ht : c.Tracks fs) {k : Nat} {h : SubscriptionHandle}
    (hk : c.handles[k]? = some (some h)) {fate : HandleFate} (hfate : fate ≠ .held) {f : Fanout}
    (hs : f.Sound) (hq : f.QueuesKeep)
    (hkeep : ∀ id ∈ c.fanout.roster.map (·.1), id ≠ h.id → id ∈ f.roster.map (·.1))
    (hcount : f.subscribers.length = (fs.set k fate).countP (· != HandleFate.released)) :
    Tracks { fanout := f, handles := c.handles.set k none } (fs.set k fate) := by
  have hkl : k < fs.length := ht.length_eq ▸ (List.getElem?_eq_some_iff.mp hk).1
  -- a handle still held sits in another slot, where it was held before
  have hother : ∀ (j : Nat) (h' : SubscriptionHandle), (c.handles.set k none)[j]? = some (some h') →
      j ≠ k ∧ c.handles[j]? = some (some h') := by
    intro j h' hj
    by_cases hjk : j = k
    · subst hjk
      rw [List.getElem?_set_self (ht.length_eq ▸ hkl)] at hj
      cases hj
    · exact ⟨hjk, by rwa [List.getElem?_set_ne (Ne.symm hjk)] at hj⟩
  refine ⟨hs, hq, by simp [ht.length_eq], fun j => ?_, fun j h' hj => ht.active j h' (hother j h' hj).2,
    fun j h' hj => ?_, fun j j' h₁ h₂ hj hj' hid =>
      ht.distinct j j' h₁ h₂ (hother j h₁ hj).2 (hother j' h₂ hj').2 hid, hcount⟩
  · by_cases hjk : j = k
    · subst hjk
      rw [List.getElem?_set_self hkl, List.getElem?_set_self (ht.length_eq ▸ hkl)]
      simp [hfate]
    · rw [List.getElem?_set_ne (Ne.symm hjk), List.getElem?_set_ne (Ne.symm hjk)]
      exact ht.held_iff j
  · obtain ⟨hjk, hj⟩ := hother j h' hj
    exact hkeep _ (ht.subscribed j h' hj) fun hid => hjk (ht.distinct j k h' h hj hk hid)

/-- Giving up a slot with no held handle changes nothing. -/
theorem Tracks.giveUp (ht : c.Tracks fs) (k : Nat) (act : SubscriptionHandle → Fanout → Fanout)
    (fate : HandleFate)
    (hheld : ∀ h, c.handles[k]? = some (some h) →
      Tracks { fanout := act h c.fanout, handles := c.handles.set k none } (fs.set k fate)) :
    Tracks (c.giveUp k act) (if fs[k]? = some .held then fs.set k fate else fs) := by
  rcases giveUp_cases (c := c) k act with ⟨hnone, hc⟩ | ⟨h, hk, hc⟩
  · have hnot : fs[k]? ≠ some HandleFate.held := fun hf =>
      let ⟨h, hk⟩ := (ht.held_iff k).mp hf
      hnone h hk
    rw [hc, if_neg hnot]
    exact ht
  · rw [hc, if_pos ((ht.held_iff k).mpr ⟨h, hk⟩)]
    exact hheld h hk

/-- Cancelling or dropping a held handle releases its subscription. -/
theorem Tracks.release (ht : c.Tracks fs) (k : Nat) {act : SubscriptionHandle → Fanout → Fanout}
    (hact : ∀ h f, h.active = true → act h f = f.unsubscribe h.id) :
    Tracks (c.giveUp k act) (if fs[k]? = some .held then fs.set k .released else fs) := by
  refine ht.giveUp k act .released fun h hk => ?_
  obtain ⟨hkl, hfk⟩ := List.getElem?_eq_some_iff.mp ((ht.held_iff k).mpr ⟨h, hk⟩)
  rw [hact h c.fanout (ht.active k h hk)]
  refine ht.clear hk (by decide) (ht.sound.apply (.unsubscribe h.id))
    (Fanout.QueuesKeep.unsubscribe ht.queuesKeep h.id) (fun id hid hne => ?_) ?_
  · obtain ⟨x, hx, rfl⟩ := List.mem_map.mp hid
    rw [Fanout.unsubscribe_roster]
    exact List.mem_map.mpr ⟨x, List.mem_filter.mpr ⟨hx, by simpa using hne⟩, rfl⟩
  · have hlen := Fanout.unsubscribe_length ht.sound (ht.subscribed k h hk)
    rw [List.countP_set hkl, hfk, ← ht.count_eq]
    simp
    omega

/-- Detaching a held handle keeps its subscription. -/
theorem Tracks.detach (ht : c.Tracks fs) (k : Nat) :
    Tracks (c.giveUp k SubscriptionHandle.detach)
      (if fs[k]? = some .held then fs.set k .detached else fs) := by
  refine ht.giveUp k _ .detached fun h hk => ?_
  obtain ⟨hkl, hfk⟩ := List.getElem?_eq_some_iff.mp ((ht.held_iff k).mpr ⟨h, hk⟩)
  rw [SubscriptionHandle.detach_eq]
  refine ht.clear hk (by decide) ht.sound ht.queuesKeep (fun id hid _ => hid) ?_
  -- the held handle was counted, and stays counted as detached
  have hpos : 0 < fs.countP (· != HandleFate.released) :=
    List.countP_pos_iff.mpr ⟨fs[k], List.getElem_mem hkl, by simp [hfk]⟩
  rw [ht.count_eq, List.countP_set hkl, hfk]
  simp
  omega

/-- Every call keeps the bus standing as the fates of its handles say. -/
theorem Tracks.apply (ht : c.Tracks fs) (call : BusCall) :
    Tracks (c.apply call) (HandleFate.step fs call) := by
  cases call with
  | deliver epoch e =>
    exact ht.of_roster (ht.sound.apply (.deliver epoch e))
      (Fanout.QueuesKeep.deliver ht.queuesKeep epoch e) (Fanout.deliver_roster c.fanout epoch e)
  | emit topic payload now =>
    exact ht.of_roster (ht.sound.apply (.emit topic payload now))
      (Fanout.QueuesKeep.deliver (f := c.fanout.countEmit topic) ht.queuesKeep _ _)
      (Fanout.deliver_roster (c.fanout.countEmit topic) _ _)
  | subscribe p o now => exact ht.subscribe p o now
  | resetSession =>
    exact ht.of_roster (ht.sound.apply .resetSession)
      (Fanout.QueuesKeep.resetSession ht.queuesKeep) (Fanout.resetSession_roster c.fanout)
  | take id =>
    obtain ⟨hcache, hnext, -⟩ := Fanout.takeFrom_keeps (f := c.fanout) id
    exact ht.of_roster (ht.sound.congr (hcache ▸ ht.sound.sorted) (Fanout.takeFrom_roster id) hnext)
      (Fanout.QueuesKeep.takeFrom ht.queuesKeep id) (Fanout.takeFrom_roster id)
  | cancel k => exact ht.release k fun h f ha => SubscriptionHandle.cancel_of_active f ha
  | detach k => exact ht.detach k
  | drop k => exact ht.release k fun h f ha => SubscriptionHandle.drop_of_active f ha

theorem Tracks.run (ht : c.Tracks fs) (calls : List BusCall) :
    Tracks (c.run calls) (HandleFate.ofCalls fs calls) := by
  induction calls generalizing c fs with
  | nil => exact ht
  | cons call calls ih => exact ih (ht.apply call)

end BusClients

/-- Over any run of calls on a new bus, the counters are what the run's offers add: a refused
offer counts once under its reason, and an accepted one counts the subscribers its topic
matched then and the queues it made evict, but neither a duplicate nor a stale offer.  No
counter ever goes down, and the bus has as many subscribers as the run made subscriptions
whose handle was neither cancelled nor dropped. -/
theorem bus_counts_every_outcome_once (rules : List (TopicPattern × Span)) (perTopic : Nat)
    (calls : List BusCall) :
    let c₀ : BusClients := { fanout := Fanout.new { autostale := rules } perTopic }
    (c₀.run calls).fanout.diagnostics.counters = OfferRecord.tally (c₀.offerLog calls) ∧
      (∀ more : List BusCall, (c₀.run calls).fanout.diagnostics.counters ≤
        (c₀.run (calls ++ more)).fanout.diagnostics.counters) ∧
      (c₀.run calls).fanout.diagnostics.subscribers =
        (HandleFate.ofCalls [] calls).countP (· != HandleFate.released) := by
  intro c₀
  have ht₀ : c₀.Tracks [] := BusClients.tracks_new rules perTopic
  have ht := ht₀.run calls
  refine ⟨?_, fun more => ?_, ht.count_eq⟩
  · have hzero : c₀.fanout.counters = {} := rfl
    rw [Fanout.diagnostics, BusClients.counters_run ht₀.queuesKeep calls, hzero,
      BusCounters.empty_add]
  · rw [BusClients.run_append, Fanout.diagnostics, Fanout.diagnostics,
      BusClients.counters_run ht.queuesKeep more]
    exact BusCounters.le_add _ _

end Tether
