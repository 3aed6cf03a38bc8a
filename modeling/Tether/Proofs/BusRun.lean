import Tether.Bus.Fanout
import Tether.Proofs.CacheRefinement
/-!
# Proofs.BusRun — runs of the inbound bus, and what they queue

The inbound half of the bus is driven by five operations (`BusOp`): offering an event for a
session epoch, publishing a host event, adding a subscriber, removing one, and starting the
next session epoch.  A run applies them in order (`Fanout.run`).  Beside the state, a run
leaves two logs that are not part of the bus but say what it did:

* `pushLog`: every event placed in a subscriber queue, with the subscriber, in order — on an
  accepted offer one entry per matching subscriber, on a subscription the cached values of
  the matching topics for the new subscriber;
* `freshLog`: every event the cache accepted as fresh, in order.

A publication by the host is an offer in the current epoch of the event `Fanout.emitted`,
numbered after the last one the host published on its topic (`emit_eq`).

`Fanout.Sound` is what every reachable bus satisfies: the cache is sorted by topic, and the
subscriber ids are distinct and below the next id.  Every operation keeps it (`Sound.apply`).

Per subscriber, one operation queues for `s` on topic `t` exactly the fresh events on `t`
when `s` is subscribed with a pattern matching `t`, and nothing otherwise
(`onTo_pushes`); a subscription queues for the new id the cached value of `t` when its
pattern matches (`onTo_pushes_subscribe`).  After a reset the cache and every queue are
empty (`resetSession_cache`, `resetSession_queues`).
-/

namespace Tether

open Tether.Json

set_option autoImplicit false

/-- An operation on the inbound half of the bus. -/
inductive BusOp where
  /-- Offers an event received during `epoch`. -/
  | deliver (epoch : Nat) (e : TelemetryEvent)
  /-- Publishes a host event on a topic. -/
  | emit (topic : String) (payload : Json) (now : Instant)
  /-- Adds a subscriber with its queue filled from the cache. -/
  | subscribe (pattern : TopicPattern) (owner : Option PluginId) (now : Instant)
  /-- Removes a subscriber. -/
  | unsubscribe (id : Nat)
  /-- Starts the next session epoch. -/
  | resetSession

namespace BusOp

/-- Whether the operation starts a new epoch. -/
def isReset : BusOp → Bool
  | .resetSession => true
  | _ => false

/-- Whether the operation removes subscriber `s`. -/
def removes (s : Nat) : BusOp → Bool
  | .unsubscribe id => id == s
  | _ => false

end BusOp

namespace Fanout

/-! ## One operation -/

/-- The event a host publication on `topic` makes. -/
def emitted (f : Fanout) (topic : String) (payload : Json) (now : Instant) : TelemetryEvent :=
  { topic, seq := f.nextSeq topic, payload, receivedAt := now }

/-- The bus with a host publication on `topic` counted. -/
def countEmit (f : Fanout) (topic : String) : Fanout :=
  { f with localSeq := (topic, f.nextSeq topic) :: f.localSeq.filter (·.1 != topic) }

/-- A host publication is an offer of its event in the current epoch. -/
theorem emit_eq (f : Fanout) (topic : String) (payload : Json) (now : Instant) :
    f.emit topic payload now = (f.countEmit topic).deliver f.epoch (f.emitted topic payload now) :=
  rfl

/-- The bus after an operation. -/
def apply (f : Fanout) : BusOp → Fanout
  | .deliver epoch e => (f.deliver epoch e).2.2
  | .emit topic payload now => (f.emit topic payload now).2.2
  | .subscribe pattern owner now => (f.subscribe pattern owner now).2
  | .unsubscribe id => f.unsubscribe id
  | .resetSession => f.resetSession

/-- What an operation places in subscriber queues, in order: the subscriber and the event. -/
def pushes (f : Fanout) : BusOp → List (Nat × TelemetryEvent)
  | .deliver epoch e => (f.deliver epoch e).2.1.map ((·, e))
  | .emit topic payload now =>
    (f.emit topic payload now).2.1.map ((·, f.emitted topic payload now))
  | .subscribe pattern _ now => (f.cache.matching pattern now).map ((f.nextId, ·.event))
  | .unsubscribe _ => []
  | .resetSession => []

/-- The events an operation has the cache accept as fresh. -/
def accepted (f : Fanout) : BusOp → List TelemetryEvent
  | .deliver epoch e => if (f.deliver epoch e).1 = .fresh then [e] else []
  | .emit topic payload now =>
    if (f.emit topic payload now).1 = .fresh then [f.emitted topic payload now] else []
  | _ => []

/-! ## Runs -/

/-- The bus after a run. -/
def run (f : Fanout) : List BusOp → Fanout
  | [] => f
  | op :: ops => (f.apply op).run ops

/-- Every queue insertion of a run, in order. -/
def pushLog (f : Fanout) : List BusOp → List (Nat × TelemetryEvent)
  | [] => []
  | op :: ops => f.pushes op ++ (f.apply op).pushLog ops

/-- Every event a run has the cache accept as fresh, in order. -/
def freshLog (f : Fanout) : List BusOp → List TelemetryEvent
  | [] => []
  | op :: ops => f.accepted op ++ (f.apply op).freshLog ops

/-- The events of topic `t` among queue insertions for subscriber `s`. -/
def onTo (s : Nat) (t : String) (xs : List (Nat × TelemetryEvent)) : List TelemetryEvent :=
  (xs.filter fun x => x.1 == s && x.2.topic == t).map (·.2)

/-- What a run queues for subscriber `s` on topic `t`, in order. -/
def pushedTo (f : Fanout) (ops : List BusOp) (s : Nat) (t : String) : List TelemetryEvent :=
  onTo s t (f.pushLog ops)

/-- The events of topic `t`. -/
def onTopic (t : String) (es : List TelemetryEvent) : List TelemetryEvent :=
  es.filter (·.topic == t)

/-- The subscribers by id and pattern, in subscription order. -/
def roster (f : Fanout) : List (Nat × TopicPattern) :=
  f.subscribers.map fun S => (S.id, S.pattern)

/-- The pattern of subscriber `s`, while it is subscribed. -/
def patternOf? (f : Fanout) (s : Nat) : Option TopicPattern := f.roster.lookup s

@[simp] theorem run_nil (f : Fanout) : f.run [] = f := rfl
@[simp] theorem run_cons (f : Fanout) (op : BusOp) (ops : List BusOp) :
    f.run (op :: ops) = (f.apply op).run ops := rfl
@[simp] theorem pushLog_nil (f : Fanout) : f.pushLog [] = [] := rfl
@[simp] theorem pushLog_cons (f : Fanout) (op : BusOp) (ops : List BusOp) :
    f.pushLog (op :: ops) = f.pushes op ++ (f.apply op).pushLog ops := rfl
@[simp] theorem freshLog_nil (f : Fanout) : f.freshLog [] = [] := rfl
@[simp] theorem freshLog_cons (f : Fanout) (op : BusOp) (ops : List BusOp) :
    f.freshLog (op :: ops) = f.accepted op ++ (f.apply op).freshLog ops := rfl

theorem run_append (f : Fanout) (ops ops' : List BusOp) :
    f.run (ops ++ ops') = (f.run ops).run ops' := by
  induction ops generalizing f with
  | nil => rfl
  | cons op ops ih => exact ih (f.apply op)

theorem pushLog_append (f : Fanout) (ops ops' : List BusOp) :
    f.pushLog (ops ++ ops') = f.pushLog ops ++ (f.run ops).pushLog ops' := by
  induction ops generalizing f with
  | nil => rfl
  | cons op ops ih => simp [ih]

theorem freshLog_append (f : Fanout) (ops ops' : List BusOp) :
    f.freshLog (ops ++ ops') = f.freshLog ops ++ (f.run ops).freshLog ops' := by
  induction ops generalizing f with
  | nil => rfl
  | cons op ops ih => simp [ih]

@[simp] theorem onTo_nil (s : Nat) (t : String) : onTo s t [] = [] := rfl
@[simp] theorem onTo_append (s : Nat) (t : String) (xs ys : List (Nat × TelemetryEvent)) :
    onTo s t (xs ++ ys) = onTo s t xs ++ onTo s t ys := by
  simp [onTo]
@[simp] theorem onTopic_nil (t : String) : onTopic t [] = [] := rfl
@[simp] theorem onTopic_append (t : String) (es es' : List TelemetryEvent) :
    onTopic t (es ++ es') = onTopic t es ++ onTopic t es' := by
  simp [onTopic]

theorem pushedTo_cons (f : Fanout) (op : BusOp) (ops : List BusOp) (s : Nat) (t : String) :
    f.pushedTo (op :: ops) s t = onTo s t (f.pushes op) ++ (f.apply op).pushedTo ops s t := by
  simp [pushedTo]

/-! ## What each operation does -/

/-- A subscriber after an event is offered to the bus: queued when its pattern matches. -/
def offerTo (e : TelemetryEvent) (S : Subscriber) : Subscriber :=
  if S.pattern.matchesTopic e.topic then { S with queue := (S.queue.push e).1 } else S

theorem pushMatching_fst (e : TelemetryEvent) (subs : List Subscriber) :
    (pushMatching e subs).1 = subs.map (offerTo e) := by
  induction subs with
  | nil => rfl
  | cons S rest ih =>
      by_cases hm : S.pattern.matchesTopic e.topic = true
      · simp [pushMatching, offerTo, hm, ih]
      · simp [pushMatching, offerTo, hm, ih]

theorem pushMatching_ids (e : TelemetryEvent) (subs : List Subscriber) :
    (pushMatching e subs).2.1 = (subs.filter (·.pattern.matchesTopic e.topic)).map (·.id) := by
  induction subs with
  | nil => rfl
  | cons S rest ih =>
      by_cases hm : S.pattern.matchesTopic e.topic = true
      · simp [pushMatching, hm, ih]
      · simp [pushMatching, hm, ih]

@[simp] theorem offerTo_id (e : TelemetryEvent) (S : Subscriber) : (offerTo e S).id = S.id := by
  unfold offerTo; split <;> rfl

@[simp] theorem offerTo_pattern (e : TelemetryEvent) (S : Subscriber) :
    (offerTo e S).pattern = S.pattern := by
  unfold offerTo; split <;> rfl

section Deliver

variable (f : Fanout) (epoch : Nat) (e : TelemetryEvent)

theorem deliver_of_fresh (h : f.cache.admission epoch e = .fresh) :
    (f.deliver epoch e).1 = .fresh ∧
      (f.deliver epoch e).2.1 = (f.subscribers.filter (·.pattern.matchesTopic e.topic)).map (·.id) ∧
      (f.deliver epoch e).2.2.cache = { f.cache with entries := upsertEvent e f.cache.entries } ∧
      (f.deliver epoch e).2.2.subscribers = f.subscribers.map (offerTo e) ∧
      (f.deliver epoch e).2.2.nextId = f.nextId := by
  simp only [deliver, LastValueCache.accept_fresh h, true_and, and_true]
  exact ⟨pushMatching_ids e _, pushMatching_fst e _⟩

theorem deliver_of_refused (h : f.cache.admission epoch e ≠ .fresh) :
    (f.deliver epoch e).1 = f.cache.admission epoch e ∧ (f.deliver epoch e).2.1 = [] ∧
      (f.deliver epoch e).2.2.cache = f.cache ∧ (f.deliver epoch e).2.2.subscribers = f.subscribers ∧
      (f.deliver epoch e).2.2.nextId = f.nextId := by
  simp only [deliver, LastValueCache.accept_refused h]
  cases hadm : f.cache.admission epoch e with
  | fresh => exact absurd hadm h
  | duplicate last => exact ⟨rfl, rfl, rfl, rfl, rfl⟩
  | wrongEpoch => exact ⟨rfl, rfl, rfl, rfl, rfl⟩

@[simp] theorem deliver_admission : (f.deliver epoch e).1 = f.cache.admission epoch e := by
  by_cases h : f.cache.admission epoch e = .fresh
  · rw [(deliver_of_fresh f epoch e h).1, h]
  · exact (deliver_of_refused f epoch e h).1

@[simp] theorem deliver_nextId : (f.deliver epoch e).2.2.nextId = f.nextId := by
  by_cases h : f.cache.admission epoch e = .fresh
  · exact (deliver_of_fresh f epoch e h).2.2.2.2
  · exact (deliver_of_refused f epoch e h).2.2.2.2

theorem deliver_cache : (f.deliver epoch e).2.2.cache = (f.cache.accept epoch e).2 := by
  by_cases h : f.cache.admission epoch e = .fresh
  · rw [(deliver_of_fresh f epoch e h).2.2.1, LastValueCache.accept_fresh h]
  · rw [(deliver_of_refused f epoch e h).2.2.1, LastValueCache.accept_refused h]

theorem deliver_roster : (f.deliver epoch e).2.2.roster = f.roster := by
  by_cases h : f.cache.admission epoch e = .fresh
  · simp [roster, (deliver_of_fresh f epoch e h).2.2.2.1, Function.comp_def]
  · simp [roster, (deliver_of_refused f epoch e h).2.2.2.1]

end Deliver

section Others

variable (f : Fanout)

@[simp] theorem countEmit_cache (topic : String) : (f.countEmit topic).cache = f.cache := rfl
@[simp] theorem countEmit_subscribers (topic : String) :
    (f.countEmit topic).subscribers = f.subscribers := rfl
@[simp] theorem countEmit_nextId (topic : String) : (f.countEmit topic).nextId = f.nextId := rfl
@[simp] theorem countEmit_roster (topic : String) : (f.countEmit topic).roster = f.roster := rfl

theorem apply_emit (topic : String) (payload : Json) (now : Instant) :
    f.apply (.emit topic payload now) =
      (f.countEmit topic).apply (.deliver f.epoch (f.emitted topic payload now)) := rfl
theorem pushes_emit (topic : String) (payload : Json) (now : Instant) :
    f.pushes (.emit topic payload now) =
      (f.countEmit topic).pushes (.deliver f.epoch (f.emitted topic payload now)) := rfl
theorem accepted_emit (topic : String) (payload : Json) (now : Instant) :
    f.accepted (.emit topic payload now) =
      (f.countEmit topic).accepted (.deliver f.epoch (f.emitted topic payload now)) := rfl

@[simp] theorem subscribe_fst (p : TopicPattern) (o : Option PluginId) (now : Instant) :
    (f.subscribe p o now).1 = f.nextId := rfl
@[simp] theorem subscribe_cache (p : TopicPattern) (o : Option PluginId) (now : Instant) :
    (f.subscribe p o now).2.cache = f.cache := rfl
@[simp] theorem subscribe_nextId (p : TopicPattern) (o : Option PluginId) (now : Instant) :
    (f.subscribe p o now).2.nextId = f.nextId + 1 := rfl
theorem subscribe_roster (p : TopicPattern) (o : Option PluginId) (now : Instant) :
    (f.subscribe p o now).2.roster = f.roster ++ [(f.nextId, p)] := by
  simp [subscribe, roster]

@[simp] theorem unsubscribe_cache (s : Nat) : (f.unsubscribe s).cache = f.cache := rfl
@[simp] theorem unsubscribe_nextId (s : Nat) : (f.unsubscribe s).nextId = f.nextId := rfl
theorem unsubscribe_roster (s : Nat) :
    (f.unsubscribe s).roster = f.roster.filter (·.1 != s) := by
  simp [unsubscribe, roster, List.filter_map, Function.comp_def]

/-- A reset empties the cache and starts the next epoch. -/
@[simp] theorem resetSession_cache : f.resetSession.cache = f.cache.reset := rfl
@[simp] theorem resetSession_nextId : f.resetSession.nextId = f.nextId := rfl
theorem resetSession_roster : f.resetSession.roster = f.roster := by
  simp [resetSession, roster, Function.comp_def]

/-- A reset empties every queue. -/
theorem resetSession_queues : ∀ S ∈ f.resetSession.subscribers, S.queue.events = [] := by
  intro S hS
  simp only [resetSession, List.mem_map] at hS
  obtain ⟨S', -, rfl⟩ := hS
  rfl

end Others

/-! ## Subscribers by id -/

theorem lookup_filter_key_ne {α β : Type} [BEq α] [LawfulBEq α] {l : List (α × β)} {s r : α}
    (hne : r ≠ s) :
    (l.filter (·.1 != r)).lookup s = l.lookup s := by
  induction l with
  | nil => rfl
  | cons x rest ih =>
      obtain ⟨k, q⟩ := x
      by_cases hk : k = r
      · subst hk
        have hsk : (s == k) = false := beq_eq_false_iff_ne.mpr (Ne.symm hne)
        simp [List.lookup_cons, hsk, ih]
      · have hkeep : (k != r) = true := bne_iff_ne.mpr hk
        simp only [List.filter_cons, hkeep, if_true, List.lookup_cons, ih]

theorem lookup_filter_key_self {α β : Type} [BEq α] [LawfulBEq α] (l : List (α × β)) (s : α) :
    (l.filter (·.1 != s)).lookup s = none := by
  rw [List.lookup_eq_none_iff]
  intro x hx
  have hne := (List.mem_filter.mp hx).2
  simp only [bne_iff_ne, ne_eq] at hne ⊢
  exact fun h => hne h.symm

/-- Among the subscribers whose pattern matches `u`, the one of id `s`, if it is there. -/
theorem filter_ids_matching {subs : List Subscriber} (hnd : (subs.map (·.id)).Nodup)
    (s : Nat) (u : String) :
    ((subs.filter (·.pattern.matchesTopic u)).map (·.id)).filter (· == s) =
      if ((subs.map fun S => (S.id, S.pattern)).lookup s).any (·.matchesTopic u) then [s]
      else [] := by
  induction subs with
  | nil => simp
  | cons S rest ih =>
      obtain ⟨hnotin, hrest⟩ := List.nodup_cons.mp hnd
      by_cases hs : S.id = s
      · subst hs
        have hnone : ((rest.map fun S => (S.id, S.pattern)).lookup S.id) = none := by
          rw [List.lookup_eq_none_iff]
          intro x hx
          obtain ⟨S', hS', rfl⟩ := List.mem_map.mp hx
          exact bne_iff_ne.mpr fun h => hnotin (List.mem_map.mpr ⟨S', hS', h.symm⟩)
        have hrest_nil := ih hrest
        rw [hnone] at hrest_nil
        by_cases hm : S.pattern.matchesTopic u = true
        · simp only [List.filter_cons, hm, if_true, List.map_cons, beq_self_eq_true,
            hrest_nil, List.map_cons, List.lookup_cons_self, Option.any_some]
          simp
        · simp only [List.filter_cons, hm, List.map_cons, List.lookup_cons_self,
            Option.any_some]
          simpa using hrest_nil
      · have hsk : (s == S.id) = false := beq_eq_false_iff_ne.mpr (Ne.symm hs)
        have hks : (S.id == s) = false := beq_eq_false_iff_ne.mpr hs
        rw [List.map_cons, List.lookup_cons, hsk, ← ih hrest]
        by_cases hm : S.pattern.matchesTopic u = true
        · simp [hm, hks]
        · simp [hm]

theorem onTo_map_pair (s : Nat) (t : String) (ids : List Nat) (e : TelemetryEvent) :
    onTo s t (ids.map ((·, e))) =
      if e.topic = t then (ids.filter (· == s)).map fun _ => e else [] := by
  induction ids with
  | nil => split <;> rfl
  | cons i rest ih =>
      by_cases ht : e.topic = t
      · by_cases hi : i = s
        · simp_all [onTo]
        · simp_all [onTo]
      · simp_all [onTo]

/-! ## The invariant -/

/-- What every reachable bus satisfies. -/
structure Sound (f : Fanout) : Prop where
  /-- The cache holds one value per topic, in topic order. -/
  sorted : TopicSorted f.cache.entries
  /-- No two subscribers share an id. -/
  ids_nodup : (f.roster.map (·.1)).Nodup
  /-- Every subscriber id is below the next id. -/
  ids_lt : ∀ x ∈ f.roster, x.1 < f.nextId

/-- A new bus over an empty cache. -/
theorem sound_new (rules : List (TopicPattern × Span)) (perTopic : Nat) :
    (Fanout.new { autostale := rules } perTopic).Sound :=
  ⟨List.Pairwise.nil, List.nodup_nil, fun _ hx => nomatch hx⟩

namespace Sound

variable {f : Fanout}

/-- A bus with a sorted cache and the same subscribers and next id stays sound. -/
theorem congr {g : Fanout} (hf : f.Sound) (hc : TopicSorted g.cache.entries)
    (hr : g.roster = f.roster) (hn : g.nextId = f.nextId) : g.Sound :=
  ⟨hc, hr ▸ hf.ids_nodup, fun x hx => hn ▸ hf.ids_lt x (hr ▸ hx)⟩

theorem subscriber_ids_nodup (hf : f.Sound) : (f.subscribers.map (·.id)).Nodup := by
  have h := hf.ids_nodup
  simpa [roster, Function.comp_def] using h

theorem deliver (hf : f.Sound) (epoch : Nat) (e : TelemetryEvent) :
    (f.deliver epoch e).2.2.Sound := by
  refine hf.congr ?_ (deliver_roster f epoch e) (deliver_nextId f epoch e)
  rw [deliver_cache]
  by_cases h : f.cache.admission epoch e = .fresh
  · rw [LastValueCache.accept_fresh h]
    exact upsertEvent_sorted e hf.sorted
  · rw [LastValueCache.accept_refused h]
    exact hf.sorted

/-- Every operation keeps the bus sound. -/
theorem apply (hf : f.Sound) (op : BusOp) : (f.apply op).Sound := by
  cases op with
  | deliver epoch e => exact hf.deliver epoch e
  | emit topic payload now =>
      have hc : (f.countEmit topic).Sound := hf.congr hf.sorted rfl rfl
      exact hc.deliver _ _
  | subscribe p o now =>
      refine ⟨hf.sorted, ?_, ?_⟩
      · simp only [Fanout.apply, subscribe_roster, List.map_append, List.map_cons,
          List.map_nil]
        refine List.nodup_append.mpr ⟨hf.ids_nodup, List.nodup_singleton _, ?_⟩
        intro a ha b hb
        rw [List.mem_singleton] at hb
        obtain ⟨x, hx, rfl⟩ := List.mem_map.mp ha
        have := hf.ids_lt x hx
        omega
      · intro x hx
        simp only [Fanout.apply, subscribe_roster, List.mem_append, List.mem_singleton] at hx
        simp only [Fanout.apply, subscribe_nextId]
        rcases hx with hx | rfl
        · have := hf.ids_lt x hx
          omega
        · simp
  | unsubscribe s =>
      refine ⟨hf.sorted, ?_, ?_⟩
      · simp only [Fanout.apply, unsubscribe_roster]
        exact hf.ids_nodup.sublist (List.filter_sublist.map _)
      · intro x hx
        simp only [Fanout.apply, unsubscribe_roster] at hx
        exact hf.ids_lt x (List.mem_of_mem_filter hx)
  | resetSession =>
      exact hf.congr List.Pairwise.nil (resetSession_roster f) rfl

/-- Every run keeps the bus sound. -/
theorem run (hf : f.Sound) (ops : List BusOp) : (f.run ops).Sound := by
  induction ops generalizing f with
  | nil => exact hf
  | cons op ops ih => exact ih (hf.apply op)

end Sound

/-! ## One operation, seen from one subscriber and one topic -/

section Step

variable {f : Fanout}

theorem nextId_le_apply (f : Fanout) (op : BusOp) : f.nextId ≤ (f.apply op).nextId := by
  cases op with
  | deliver epoch e => simp [apply]
  | emit topic payload now => rw [apply_emit]; simp [apply]
  | subscribe p o now => simp [apply]
  | unsubscribe r => simp [apply]
  | resetSession => simp [apply]

/-- An operation that does not remove subscriber `s` leaves its pattern as it was. -/
theorem patternOf?_apply {s : Nat} (hs : s < f.nextId) (op : BusOp)
    (hrem : op.removes s = false) : (f.apply op).patternOf? s = f.patternOf? s := by
  cases op with
  | deliver epoch e => simp [patternOf?, apply, deliver_roster]
  | emit topic payload now => rw [apply_emit]; simp [patternOf?, apply, deliver_roster]
  | subscribe p o now =>
      have hnew : List.lookup s [(f.nextId, p)] = none := by simp [Nat.ne_of_lt hs]
      simp [patternOf?, apply, subscribe_roster, List.lookup_append, hnew]
  | unsubscribe r =>
      have hne : r ≠ s := by simpa [BusOp.removes] using hrem
      simp [patternOf?, apply, unsubscribe_roster, lookup_filter_key_ne hne]
  | resetSession => simp [patternOf?, apply, resetSession_roster]

theorem patternOf?_unsubscribe (f : Fanout) (s : Nat) :
    (f.apply (.unsubscribe s)).patternOf? s = none := by
  simp [patternOf?, apply, unsubscribe_roster, lookup_filter_key_self]

/-- A new subscriber has the pattern it subscribed with. -/
theorem patternOf?_subscribe (hf : f.Sound) (p : TopicPattern) (o : Option PluginId)
    (now : Instant) : (f.apply (.subscribe p o now)).patternOf? f.nextId = some p := by
  have hnone : f.roster.lookup f.nextId = none := by
    rw [List.lookup_eq_none_iff]
    intro x hx
    exact bne_iff_ne.mpr (Nat.ne_of_gt (hf.ids_lt x hx))
  simp [patternOf?, apply, subscribe_roster, List.lookup_append, hnone]

theorem onTo_pushes_deliver (hf : f.Sound) (s : Nat) (t : String) (epoch : Nat)
    (e : TelemetryEvent) :
    onTo s t (f.pushes (.deliver epoch e)) =
      if (f.patternOf? s).any (·.matchesTopic t) then onTopic t (f.accepted (.deliver epoch e))
      else [] := by
  by_cases h : f.cache.admission epoch e = .fresh
  · obtain ⟨-, hids, -⟩ := deliver_of_fresh f epoch e h
    have hacc : f.accepted (.deliver epoch e) = [e] := by simp [accepted, h]
    rw [pushes, hids, onTo_map_pair, filter_ids_matching hf.subscriber_ids_nodup, hacc]
    by_cases ht : e.topic = t
    · subst ht
      by_cases hm : (f.patternOf? s).any (·.matchesTopic e.topic) = true
      · have hm' := hm
        simp only [patternOf?, roster] at hm'
        simp [hm, hm', onTopic]
      · have hm' := hm
        simp only [patternOf?, roster] at hm'
        simp [hm, hm']
    · simp [ht, onTopic]
  · obtain ⟨-, hids, -⟩ := deliver_of_refused f epoch e h
    have hacc : f.accepted (.deliver epoch e) = [] := by simp [accepted, h]
    simp [pushes, hids, hacc, onTopic]

/-- What one operation queues for a subscriber already there: the fresh events of the
topic when its pattern matches, nothing otherwise. -/
theorem onTo_pushes (hf : f.Sound) {s : Nat} (hs : s < f.nextId) (t : String) (op : BusOp) :
    onTo s t (f.pushes op) =
      if (f.patternOf? s).any (·.matchesTopic t) then onTopic t (f.accepted op) else [] := by
  cases op with
  | deliver epoch e => exact onTo_pushes_deliver hf s t epoch e
  | emit topic payload now =>
      rw [pushes_emit, accepted_emit]
      exact @onTo_pushes_deliver (f.countEmit topic) (hf.congr hf.sorted rfl rfl) s t _ _
  | subscribe p o now =>
      have hne : f.nextId ≠ s := Nat.ne_of_gt hs
      simp [onTo, pushes, accepted, onTopic, List.filter_map, Function.comp_def, hne]
  | unsubscribe r => simp [pushes, accepted, onTopic]
  | resetSession => simp [pushes, accepted, onTopic]

/-- A subscription queues for the new subscriber the cached value of every topic its
pattern matches. -/
theorem onTo_pushes_subscribe (hf : f.Sound) (p : TopicPattern) (o : Option PluginId)
    (now : Instant) (t : String) :
    onTo f.nextId t (f.pushes (.subscribe p o now)) =
      if p.matchesTopic t then (findTopic f.cache.entries t).toList else [] := by
  have hfilter : (f.cache.entries.filter fun x => x.topic == t && p.matchesTopic x.topic) =
      if p.matchesTopic t then f.cache.entries.filter (·.topic == t) else [] := by
    split_ifs with hm
    · apply List.filter_congr
      intro x _
      by_cases hx : x.topic = t
      · simp [hx, hm]
      · simp [hx]
    · apply List.filter_eq_nil_iff.mpr
      intro x _
      by_cases hx : x.topic = t
      · simp [hx, hm]
      · simp [hx]
  have hsorted := TopicSorted.filter_topic hf.sorted t
  simp only [onTo, pushes, LastValueCache.matching, LastValueCache.describe, List.map_map,
    List.filter_map, Function.comp_def, beq_self_eq_true, Bool.true_and, List.filter_filter]
  rw [List.map_id', hfilter]
  split_ifs
  · exact hsorted
  · rfl

@[simp] theorem getLast?_toList {α : Type} (o : Option α) : o.toList.getLast? = o := by
  cases o <;> rfl

/-- An operation has the cache accept nothing, or the one event it offers. -/
theorem accepted_eq (f : Fanout) (op : BusOp) : f.accepted op = [] ∨ ∃ e, f.accepted op = [e] := by
  cases op with
  | deliver epoch e =>
      by_cases h : (f.deliver epoch e).1 = .fresh
      · exact .inr ⟨e, by simp only [accepted, h, if_true]⟩
      · exact .inl (by simp only [accepted, h, if_false])
  | emit topic payload now =>
      by_cases h : (f.emit topic payload now).1 = .fresh
      · exact .inr ⟨f.emitted topic payload now, by simp only [accepted, h, if_true]⟩
      · exact .inl (by simp only [accepted, h, if_false])
  | subscribe p o now => exact .inl rfl
  | unsubscribe r => exact .inl rfl
  | resetSession => exact .inl rfl

theorem findTopic_deliver (f : Fanout) (epoch : Nat) (e : TelemetryEvent) (t : String) :
    findTopic (f.deliver epoch e).2.2.cache.entries t =
      ((findTopic f.cache.entries t).toList ++ onTopic t (f.accepted (.deliver epoch e))).getLast? := by
  by_cases h : f.cache.admission epoch e = .fresh
  · have hacc : f.accepted (.deliver epoch e) = [e] := by simp [accepted, h]
    rw [(deliver_of_fresh f epoch e h).2.2.1, hacc]
    by_cases ht : e.topic = t
    · subst ht
      simp [onTopic]
    · rw [findTopic_upsertEvent_of_ne e ht]
      simp [onTopic, ht]
  · have hacc : f.accepted (.deliver epoch e) = [] := by simp [accepted, h]
    rw [(deliver_of_refused f epoch e h).2.2.1, hacc]
    simp [onTopic]

/-- The cached value of a topic after an operation other than a reset: the last of the
value before and the fresh events of the topic. -/
theorem findTopic_apply (f : Fanout) (op : BusOp) (hr : op.isReset = false) (t : String) :
    findTopic (f.apply op).cache.entries t =
      ((findTopic f.cache.entries t).toList ++ onTopic t (f.accepted op)).getLast? := by
  cases op with
  | deliver epoch e => exact findTopic_deliver f epoch e t
  | emit topic payload now =>
      rw [apply_emit, accepted_emit]
      exact findTopic_deliver (f.countEmit topic) _ _ t
  | subscribe p o now => simp [apply, accepted, onTopic]
  | unsubscribe r => simp [apply, accepted, onTopic]
  | resetSession => cases hr

theorem seq_lt_accepted_deliver (f : Fanout) (epoch : Nat) (e : TelemetryEvent) (t : String) :
    ∀ x ∈ (findTopic f.cache.entries t).toList, ∀ y ∈ onTopic t (f.accepted (.deliver epoch e)),
      x.seq < y.seq := by
  intro x hx y hy
  by_cases h : f.cache.admission epoch e = .fresh
  · have hacc : f.accepted (.deliver epoch e) = [e] := by simp [accepted, h]
    rw [hacc] at hy
    simp only [onTopic, List.mem_filter, List.mem_singleton, beq_iff_eq] at hy
    obtain ⟨rfl, rfl⟩ := hy
    exact LastValueCache.seq_lt_of_admission_fresh h (Option.mem_toList.mp hx)
  · have hacc : f.accepted (.deliver epoch e) = [] := by simp [accepted, h]
    simp [hacc, onTopic] at hy

/-- A fresh event is numbered above the cached value of its topic. -/
theorem seq_lt_accepted (f : Fanout) (op : BusOp) (t : String) :
    ∀ x ∈ (findTopic f.cache.entries t).toList, ∀ y ∈ onTopic t (f.accepted op),
      x.seq < y.seq := by
  cases op with
  | deliver epoch e => exact seq_lt_accepted_deliver f epoch e t
  | emit topic payload now =>
      rw [accepted_emit]
      exact seq_lt_accepted_deliver (f.countEmit topic) _ _ t
  | subscribe p o now => simp [accepted, onTopic]
  | unsubscribe r => simp [accepted, onTopic]
  | resetSession => simp [accepted, onTopic]

end Step

end Fanout

end Tether
