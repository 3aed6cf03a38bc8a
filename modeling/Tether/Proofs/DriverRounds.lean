import Tether.Proofs.ProvisioningMoves
import Tether.Proofs.SessionSwitch
import Tether.Host.Session
/-!
# Proofs.DriverRounds — the provisioning driver hears each report in the round after it

The provisioning driver reads inputs off two topics, the reports of a device
(`reportTopics`: portal advertisements and station reports).  What hearing an event does to
the provisioning state is `ProvisioningState.hear`: the input read off it
(`Host.telemetryInput`) moves the machine where the table has a row for it, and anything else
leaves the state as it is.  Telemetry inputs issue no command, so nothing can make an input
that fits fail (`Host.applyInput_of_telemetry`).

The driver hears through workers, and a worker only runs in a round of background work
(`Host.settle`).  While the driver listens as it was started (`Host.DriverListens`: each report
topic is heard by exactly one of its subscriptions, none of which hears the driver's own
publications), a round:

* changes nothing the driver reads when no report waits in its queues (`Host.DriverIdle`):
  the provisioning state, the epoch and the last number the bus took on each report topic
  stay (`Host.settle_of_idle`);
* applies a report that waits in one of its queues, once (`Host.settle_of_awaits`).

So offering an event to the bus and letting a round run hears it exactly when the bus takes
it (`Host.deliver_settle`), which is the step of every run of a link.
-/

namespace Tether

open Tether.Json

set_option autoImplicit false

/-- Whether a worker feeds the provisioning driver. -/
def Handler.isDriver : Handler → Bool
  | .provisioning => true
  | _ => false

/-- The topics the provisioning driver reads inputs from: the reports of a device. -/
def reportTopics : List String := [portalAdvertisedTopic, wifiStaTopic]

namespace ProvisioningState

/-- The state the machine moves to on an input: the next state where the table has a row,
else the state it is in. -/
def advance (s : ProvisioningState) (i : ProvisioningInput) : ProvisioningState :=
  match s.step i with
  | .ok (next, _) => next
  | .error _ => s

/-- The state the driver leaves after hearing an event: the input it reads off the event
moves the machine, and an event that is no input leaves it. -/
def hear (s : ProvisioningState) (e : TelemetryEvent) : ProvisioningState :=
  match Host.telemetryInput e with
  | some i => s.advance i
  | none => s

/-- An event on a topic that is no report is no input. -/
theorem telemetryInput_of_not_report {e : TelemetryEvent} (he : e.topic ∉ reportTopics) :
    Host.telemetryInput e = none := by
  have hp : (e.topic == portalAdvertisedTopic) = false :=
    beq_false_of_ne fun h => he (h ▸ List.mem_cons_self ..)
  have hw : (e.topic == wifiStaTopic) = false :=
    beq_false_of_ne fun h => he (h ▸ List.mem_cons_of_mem _ (List.mem_singleton_self _))
  simp only [Host.telemetryInput, hp, hw, Bool.false_eq_true, if_false]

theorem hear_of_not_report {e : TelemetryEvent} (he : e.topic ∉ reportTopics) (s : ProvisioningState) :
    s.hear e = s := by
  rw [hear, telemetryInput_of_not_report he]

/-- Hearing depends on an event's topic and payload only. -/
theorem hear_congr {e e' : TelemetryEvent} (ht : e'.topic = e.topic) (hp : e'.payload = e.payload)
    (s : ProvisioningState) : s.hear e' = s.hear e := by
  simp only [hear, Host.telemetryInput, ht, hp]

end ProvisioningState

/-- A row of the table for an input of the device issues no command. -/
theorem ProvisioningState.Transition.issued_of_telemetry {s s' : ProvisioningState}
    {i : ProvisioningInput} {effs : List Effect} (ht : Transition s i s' effs)
    (hs : i.source = .telemetry) : effs.filterMap Host.issued = [] := by
  cases ht with
  | associate ssid reported ip => cases ip <;> rfl
  | advertise | alreadyJoined | reject => rfl
  | scan | rescan | submit | reset | retry | timeout => cases hs

namespace Host

variable (h : Host)

/-- Carrying out effects other than commands changes the join timer and the sessions only. -/
theorem carryOut_eq (e : Effect) :
    ∃ joinTimer sessions, h.carryOut e = { h with joinTimer, sessions } := by
  cases e with
  | issue _ _ => exact ⟨h.joinTimer, h.sessions, rfl⟩
  | startJoinTimer => exact ⟨_, h.sessions, rfl⟩
  | cancelJoinTimer => exact ⟨_, h.sessions, rfl⟩
  | adoptAddress ip =>
    show ∃ joinTimer sessions, h.adoptAddress ip = { h with joinTimer, sessions }
    unfold adoptAddress
    split
    · exact ⟨h.joinTimer, h.sessions, rfl⟩
    · exact ⟨h.joinTimer, _, rfl⟩

theorem foldl_carryOut_eq (effs : List Effect) :
    ∃ joinTimer sessions, effs.foldl carryOut h = { h with joinTimer, sessions } := by
  induction effs generalizing h with
  | nil => exact ⟨h.joinTimer, h.sessions, rfl⟩
  | cons e rest ih =>
    obtain ⟨j, s, hj⟩ := h.carryOut_eq e
    obtain ⟨j', s', hj'⟩ := ih (h.carryOut e)
    refine ⟨j', s', ?_⟩
    rw [List.foldl_cons, hj', hj]

/-- An input of the device that fits the state is applied: its row issues no command, so
none can fail; the effects are carried out and the next state published. -/
theorem applyInput_of_telemetry {i : ProvisioningInput} (hs : i.source = .telemetry)
    {next : ProvisioningState} {effs : List Effect} (hstep : h.provisioning.step i = .ok (next, effs)) :
    (h.applyInput i).2 = (effs.foldl carryOut h).publishProvisioning next := by
  have hnil := (ProvisioningState.transition_of_step hstep).issued_of_telemetry hs
  unfold applyInput
  rw [hstep]
  dsimp only
  rw [hnil]
  rfl

/-- Telemetry moves the provisioning state as hearing it says. -/
theorem onTelemetry_provisioning (e : TelemetryEvent) :
    (h.onTelemetry e).provisioning = h.provisioning.hear e := by
  cases he : telemetryInput e with
  | none =>
    simp only [ProvisioningState.hear, he]
    exact h.onTelemetry_of_none he
  | some i =>
    simp only [ProvisioningState.hear, he, ProvisioningState.advance]
    cases hstep : h.provisioning.step i with
    | error err => rw [h.onTelemetry_of_refused he hstep]
    | ok p =>
      obtain ⟨next, effs⟩ := p
      rw [h.onTelemetry_of_input he, h.applyInput_of_telemetry (telemetryInput_source he) hstep,
        publishProvisioning_provisioning]

/-! ## Who listens, and what waits -/

/-- Whether the worker of subscription `id` feeds the provisioning driver. -/
def drives (h : Host) (id : Nat) : Bool := (h.worker? id).any (·.handler.isDriver)

/-- The events queued for subscription `id`, oldest first. -/
def queueOf (h : Host) (id : Nat) : List TelemetryEvent :=
  ((h.fanout.subscribers.find? (·.id == id)).map (·.queue.events)).getD []

/-- Subscription `id` does not hear the driver's publications of its state. -/
def Deaf (h : Host) (id : Nat) : Prop :=
  ∀ x ∈ h.fanout.roster, x.1 = id → x.2.matchesTopic provisioningStateTopic = false

/-- The provisioning driver listens as it was started: subscriptions and workers have distinct
ids, the driver's workers never wait for a channel, none of its subscriptions hears its own
publications, and each report topic is heard by exactly one of them. -/
structure DriverListens (h : Host) : Prop where
  ids_nodup : (h.fanout.roster.map (·.1)).Nodup
  workers_nodup : (h.workers.map (·.id)).Nodup
  unheld : ∀ w ∈ h.workers, w.handler.isDriver = true → w.held = none
  deaf : ∀ id, h.drives id = true → h.Deaf id
  listens : ∀ t ∈ reportTopics, ∃ i,
    (h.fanout.roster.filter fun x => x.2.matchesTopic t && h.drives x.1).map (·.1) = [i]

/-- No report waits in the queues of the driver's subscriptions that `P` picks. -/
def QuietOn (P : Nat → Prop) (h : Host) : Prop :=
  ∀ id, P id → h.drives id = true → ∀ x ∈ h.queueOf id, x.topic ∉ reportTopics

/-- No report waits for the driver. -/
def DriverIdle (h : Host) : Prop := h.QuietOn fun _ => True

/-- Where the bus stands for reports: the epoch, and the last number it took on each report
topic. -/
def reportMarks (h : Host) : Nat × List (Option Nat) :=
  (h.fanout.cache.epoch, reportTopics.map h.fanout.cache.lastSeq?)

section Congr

variable {h h' : Host}

theorem drives_congr (hw : h'.workers = h.workers) : h'.drives = h.drives := by
  funext id
  simp only [drives, worker?, hw]

theorem queueOf_congr (hs : h'.fanout.subscribers = h.fanout.subscribers) : h'.queueOf = h.queueOf := by
  funext id
  simp only [queueOf, hs]

theorem Deaf.congr (hr : h'.fanout.roster = h.fanout.roster) {id : Nat} (hd : h.Deaf id) : h'.Deaf id := by
  unfold Deaf
  rw [hr]
  exact hd

theorem DriverListens.congr (hl : h.DriverListens) (hr : h'.fanout.roster = h.fanout.roster)
    (hw : h'.workers = h.workers) : h'.DriverListens := by
  have hd := drives_congr hw
  refine ⟨by rw [hr]; exact hl.ids_nodup, by rw [hw]; exact hl.workers_nodup,
    by rw [hw]; exact hl.unheld, fun id hid => (hl.deaf id (hd ▸ hid)).congr hr, ?_⟩
  rw [hr, hd]
  exact hl.listens

theorem QuietOn.congr {P : Nat → Prop} (hq : h.QuietOn P)
    (hs : h'.fanout.subscribers = h.fanout.subscribers) (hw : h'.workers = h.workers) : h'.QuietOn P := by
  unfold QuietOn
  rw [queueOf_congr hs, drives_congr hw]
  exact hq

theorem reportMarks_congr (hc : h'.fanout.cache = h.fanout.cache) : h'.reportMarks = h.reportMarks := by
  simp only [reportMarks, hc]

end Congr

/-! ## Waking workers and offering events -/

variable (h : Host)

/-- A fold of steps that each only add workers to the end of the line only adds to its end. -/
theorem foldl_appends_ready {α : Type} {g : Host → α → Host}
    (hg : ∀ (h : Host) (a : α), ∃ extra, g h a = { h with ready := h.ready ++ extra }) :
    ∀ (l : List α) (h : Host), ∃ extra, l.foldl g h = { h with ready := h.ready ++ extra } := by
  intro l
  induction l with
  | nil => exact fun h => ⟨[], by rw [List.append_nil]; rfl⟩
  | cons a rest ih =>
    intro h
    obtain ⟨x, hx⟩ := hg h a
    obtain ⟨y, hy⟩ := ih (g h a)
    refine ⟨x ++ y, ?_⟩
    rw [List.foldl_cons, hy, hx, List.append_assoc]

/-- Waking workers adds them to the end of the line, and changes nothing else. -/
theorem wake_appends (ids : List Nat) : ∃ extra, h.wake ids = { h with ready := h.ready ++ extra } := by
  unfold wake
  refine foldl_appends_ready (fun h id => ?_) ids h
  split
  · split
    · exact ⟨[id], rfl⟩
    · exact ⟨[], by rw [List.append_nil]⟩
  · exact ⟨[], by rw [List.append_nil]⟩

theorem wake_cons (id : Nat) (rest : List Nat) : h.wake (id :: rest) = (h.wake [id]).wake rest := rfl

/-- A worker that holds nothing is in the line once it is woken. -/
theorem mem_wake_single {id : Nat} {w : Worker} (hw : h.worker? id = some w) (hheld : w.held = none) :
    id ∈ (h.wake [id]).ready := by
  unfold wake
  simp only [List.foldl_cons, List.foldl_nil, hw, hheld, Option.isNone_none, Bool.true_and]
  split
  · exact List.mem_append_right _ (List.mem_singleton_self id)
  · rename_i hc
    simpa using hc

theorem mem_wake {id : Nat} {w : Worker} (hw : h.worker? id = some w) (hheld : w.held = none) :
    ∀ {ids : List Nat}, id ∈ ids → id ∈ (h.wake ids).ready := by
  intro ids
  induction ids generalizing h with
  | nil => intro hid; cases hid
  | cons j rest ih =>
    intro hid
    rw [wake_cons]
    obtain ⟨x, hx⟩ := h.wake_appends [j]
    rcases List.mem_cons.mp hid with rfl | hrest
    · -- woken now, and kept in line by what is woken after
      have hin := h.mem_wake_single hw hheld
      obtain ⟨y, hy⟩ := (h.wake [id]).wake_appends rest
      rw [hy]
      exact List.mem_append_left _ hin
    · have hw' : (h.wake [j]).worker? id = some w := by rw [hx]; exact hw
      exact ih (h.wake [j]) hw' hrest

/-- Offering an event changes the bus by that offer, and wakes workers. -/
theorem deliver_appends (epoch : Nat) (e : TelemetryEvent) :
    ∃ extra, h.deliver epoch e =
      { h with fanout := (h.fanout.deliver epoch e).2.2, ready := h.ready ++ extra } :=
  wake_appends _ _

@[simp] theorem deliver_workers (epoch : Nat) (e : TelemetryEvent) : (h.deliver epoch e).workers = h.workers := by
  obtain ⟨x, hx⟩ := h.deliver_appends epoch e
  rw [hx]

@[simp] theorem deliver_provisioning (epoch : Nat) (e : TelemetryEvent) :
    (h.deliver epoch e).provisioning = h.provisioning := by
  obtain ⟨x, hx⟩ := h.deliver_appends epoch e
  rw [hx]

theorem deliver_fanout (epoch : Nat) (e : TelemetryEvent) :
    (h.deliver epoch e).fanout = (h.fanout.deliver epoch e).2.2 := by
  obtain ⟨x, hx⟩ := h.deliver_appends epoch e
  rw [hx]

/-- A publication of the host is an offer in the current epoch of the event it numbers. -/
theorem emit_eq_deliver (topic : String) (payload : Json) :
    h.emit topic payload = { h with fanout := h.fanout.countEmit topic }.deliver h.fanout.epoch
      (h.fanout.emitted topic payload h.now) := rfl

/-- An offer the cache takes is queued for every subscriber whose pattern matches, and every
matching subscriber whose worker holds nothing is in line after it. -/
theorem mem_deliver_ready {epoch : Nat} {e : TelemetryEvent}
    (hf : h.fanout.cache.admission epoch e = .fresh) {s : Subscriber} (hs : s ∈ h.fanout.subscribers)
    (hm : s.pattern.matchesTopic e.topic = true) {w : Worker} (hw : h.worker? s.id = some w)
    (hheld : w.held = none) : s.id ∈ (h.deliver epoch e).ready := by
  have hids := (Fanout.deliver_of_fresh h.fanout epoch e hf).2.1
  have hmem : s.id ∈ (h.fanout.deliver epoch e).2.1 := by
    rw [hids]
    exact List.mem_map_of_mem (List.mem_filter.mpr ⟨hs, hm⟩)
  exact ({ h with fanout := (h.fanout.deliver epoch e).2.2 } : Host).mem_wake hw hheld hmem

/-- The queue of a subscription after an offer: the event joins it when the cache takes the
event and the subscription's pattern matches. -/
theorem deliver_queueOf (epoch : Nat) (e : TelemetryEvent) (id : Nat) :
    (h.deliver epoch e).queueOf id =
      if h.fanout.cache.admission epoch e = .fresh then
        ((h.fanout.subscribers.find? (·.id == id)).map fun s => (Fanout.offerTo e s).queue.events).getD []
      else h.queueOf id := by
  unfold queueOf
  rw [deliver_fanout]
  split
  · rename_i hf
    -- the offer keeps every subscriber's id, so the lookup finds the same subscriber
    have hp : ((·.id == id) ∘ Fanout.offerTo e) = (·.id == id) := by
      funext s
      simp only [Function.comp_apply, Fanout.offerTo_id]
    rw [(Fanout.deliver_of_fresh h.fanout epoch e hf).2.2.2.1, List.find?_map, hp, Option.map_map]
    rfl
  · rename_i hf
    rw [(Fanout.deliver_of_refused h.fanout epoch e hf).2.2.2.1]

end Host

/-! ## Queues -/

namespace EventQueue

/-- Nothing on a topic to push out: the first event on it is not there. -/
theorem dropFirstOn_of_forall {t : String} {es : List TelemetryEvent} (h : ∀ x ∈ es, x.topic ≠ t) :
    dropFirstOn t es = es := by
  induction es with
  | nil => rfl
  | cons x rest ih =>
    unfold dropFirstOn
    rw [if_neg (by simpa using h x (List.mem_cons_self ..)),
      ih fun y hy => h y (List.mem_cons_of_mem x hy)]

/-- A queue holding nothing on an event's topic takes the event at its back. -/
theorem push_events_of_forall {q : EventQueue} {e : TelemetryEvent} (h : ∀ x ∈ q.events, x.topic ≠ e.topic) :
    (q.push e).1.events = q.events ++ [e] := by
  unfold push
  split
  · rw [dropFirstOn_of_forall h]
  · rfl

end EventQueue

/-- The subscription of an id, looked up after a change that keeps every subscriber's id. -/
theorem find?_id_map {g : Subscriber → Subscriber} (hg : ∀ s, (g s).id = s.id) (subs : List Subscriber)
    (id : Nat) : (subs.map g).find? (·.id == id) = (subs.find? (·.id == id)).map g := by
  have hp : ((·.id == id) ∘ g) = (·.id == id) := by
    funext s
    simp only [Function.comp_apply, hg]
  rw [List.find?_map, hp]

namespace Host

variable (h : Host)

/-- Taking the oldest event of a subscription: it was the head of the subscription's queue,
which keeps the rest; every other queue, the cache and the subscribers stay. -/
theorem pop?_spec {j : Nat} {x : TelemetryEvent} {f' : Fanout} (hp : h.fanout.pop? j = some (x, f')) :
    h.queueOf j = x :: ({ h with fanout := f' } : Host).queueOf j ∧ f'.cache = h.fanout.cache ∧
      f'.roster = h.fanout.roster ∧
      ∀ id, id ≠ j → ({ h with fanout := f' } : Host).queueOf id = h.queueOf id := by
  unfold Fanout.pop? at hp
  cases hs : h.fanout.subscribers.find? (·.id == j) with
  | none =>
    rw [hs] at hp
    cases hp
  | some s =>
    rw [hs] at hp
    dsimp only at hp
    cases hq : s.queue.pop? with
    | none =>
      rw [hq] at hp
      cases hp
    | some r =>
      obtain ⟨e, q⟩ := r
      rw [hq] at hp
      simp only [Option.some.injEq, Prod.mk.injEq] at hp
      obtain ⟨rfl, rfl⟩ := hp
      -- the change keeps ids, so each lookup finds the subscriber it found before
      have hid : ∀ s' : Subscriber,
          (if s'.id == j then { s' with queue := q } else s').id = s'.id := by
        intro s'
        split <;> rfl
      refine ⟨?_, rfl, ?_, fun id hne => ?_⟩
      · have hsj : s.id = j := by simpa using List.find?_some hs
        simp only [queueOf, find?_id_map hid, hs, Option.map_some, Option.getD_some,
          EventQueue.events_of_pop? hq]
        simp [hsj]
      · simp [Fanout.roster, Function.comp_def, apply_ite]
      · simp only [queueOf, find?_id_map hid]
        cases hfind : h.fanout.subscribers.find? (·.id == id) with
        | none => rfl
        | some s' =>
          have hs' : s'.id = id := by simpa using List.find?_some hfind
          simp [hs', hne]

end Host

/-! ## The cache on other topics -/

namespace LastValueCache

variable (c : LastValueCache) (epoch : Nat) (e : TelemetryEvent)

@[simp] theorem accept_epoch : (c.accept epoch e).2.epoch = c.epoch := by
  by_cases hf : c.admission epoch e = .fresh
  · rw [accept_fresh hf]
  · rw [accept_refused hf]

/-- An offer leaves the last number of every other topic. -/
theorem lastSeq?_accept_of_ne {u : String} (hu : e.topic ≠ u) :
    (c.accept epoch e).2.lastSeq? u = c.lastSeq? u := by
  by_cases hf : c.admission epoch e = .fresh
  · rw [accept_fresh hf]
    show ((findTopic (upsertEvent e c.entries) u).map (·.seq)) = (findTopic c.entries u).map (·.seq)
    rw [findTopic_upsertEvent_of_ne e hu]
  · rw [accept_refused hf]

/-- A fresh event's number becomes the last number of its topic. -/
theorem lastSeq?_accept_self {epoch : Nat} {e : TelemetryEvent} (hf : c.admission epoch e = .fresh) :
    (c.accept epoch e).2.lastSeq? e.topic = some e.seq := by
  rw [accept_fresh hf]
  show ((findTopic (upsertEvent e c.entries) e.topic).map (·.seq)) = some e.seq
  rw [findTopic_upsertEvent_self]
  rfl

end LastValueCache

namespace Host

variable (h : Host)

/-! ## An offer, queue by queue -/

theorem mem_deliver_queueOf {epoch : Nat} {e : TelemetryEvent} {id : Nat} {x : TelemetryEvent}
    (hx : x ∈ (h.deliver epoch e).queueOf id) : x ∈ h.queueOf id ∨ x = e := by
  rw [deliver_queueOf] at hx
  split at hx
  · cases hfind : h.fanout.subscribers.find? (·.id == id) with
    | none =>
      rw [hfind] at hx
      cases hx
    | some s =>
      rw [hfind] at hx
      have hq : h.queueOf id = s.queue.events := by simp only [queueOf, hfind, Option.map_some, Option.getD_some]
      rw [hq]
      unfold Fanout.offerTo at hx
      simp only [Option.map_some, Option.getD_some] at hx
      split at hx
      · exact EventQueue.mem_push hx
      · exact .inl hx
  · exact .inl hx

/-- A subscription whose pattern does not match an offer's topic keeps its queue. -/
theorem deliver_queueOf_of_deaf {epoch : Nat} {e : TelemetryEvent} {id : Nat}
    (hd : ∀ x ∈ h.fanout.roster, x.1 = id → x.2.matchesTopic e.topic = false) :
    (h.deliver epoch e).queueOf id = h.queueOf id := by
  rw [deliver_queueOf]
  split
  · cases hfind : h.fanout.subscribers.find? (·.id == id) with
    | none => simp only [queueOf, hfind, Option.map_none, Option.getD_none]
    | some s =>
      have hs : s.id = id := by simpa using List.find?_some hfind
      have hm : s.pattern.matchesTopic e.topic = false :=
        hd (s.id, s.pattern) (List.mem_map_of_mem (List.mem_of_find?_eq_some hfind)) hs
      simp only [queueOf, hfind, Option.map_some, Option.getD_some, Fanout.offerTo, hm,
        Bool.false_eq_true, if_false]
  · rfl

theorem deliver_epoch (epoch : Nat) (e : TelemetryEvent) :
    (h.deliver epoch e).fanout.cache.epoch = h.fanout.cache.epoch := by
  rw [deliver_fanout, Fanout.deliver_cache, LastValueCache.accept_epoch]

theorem deliver_lastSeq? (epoch : Nat) (e : TelemetryEvent) {u : String} (hu : e.topic ≠ u) :
    (h.deliver epoch e).fanout.cache.lastSeq? u = h.fanout.cache.lastSeq? u := by
  rw [deliver_fanout, Fanout.deliver_cache, LastValueCache.lastSeq?_accept_of_ne _ _ _ hu]

theorem deliver_roster (epoch : Nat) (e : TelemetryEvent) :
    (h.deliver epoch e).fanout.roster = h.fanout.roster := by
  rw [deliver_fanout, Fanout.deliver_roster]

/-- An offer on a topic that is no report leaves the marks of reports. -/
theorem deliver_reportMarks {epoch : Nat} {e : TelemetryEvent} (he : e.topic ∉ reportTopics) :
    (h.deliver epoch e).reportMarks = h.reportMarks := by
  simp only [reportMarks, deliver_epoch, Prod.mk.injEq, true_and]
  exact List.map_congr_left fun u hu => h.deliver_lastSeq? epoch e fun heq => he (heq ▸ hu)

/-! ## What a worker's run may change -/

/-- What running the worker of subscription `j` may change beside provisioning: events leave
`j`'s own queue, the driver's publications of its state join the queues that hear them and
the cache on that topic, workers keep their ids and handlers, and the line of waiting workers
only grows. -/
structure Echo (j : Nat) (h h' : Host) : Prop where
  roster : h'.fanout.roster = h.fanout.roster
  drives : h'.drives = h.drives
  listens : h.DriverListens → h'.DriverListens
  grow : ∀ id, ∀ x ∈ h'.queueOf id, x ∈ h.queueOf id ∨ x.topic = provisioningStateTopic
  others : ∀ id, id ≠ j → h.Deaf id → h'.queueOf id = h.queueOf id
  marks : h'.reportMarks = h.reportMarks
  ready : ∃ extra, h'.ready = h.ready ++ extra

namespace Echo

variable {j : Nat} {h h' h'' : Host}

theorem refl (j : Nat) (h : Host) : Echo j h h :=
  ⟨rfl, rfl, id, fun _ _ hx => .inl hx, fun _ _ _ => rfl, rfl, ⟨[], (List.append_nil _).symm⟩⟩

theorem trans (e₁ : Echo j h h') (e₂ : Echo j h' h'') : Echo j h h'' where
  roster := e₂.roster.trans e₁.roster
  drives := e₂.drives.trans e₁.drives
  listens hl := e₂.listens (e₁.listens hl)
  grow id x hx := (e₂.grow id x hx).elim (e₁.grow id x) .inr
  others id hne hd := (e₂.others id hne (hd.congr e₁.roster)).trans (e₁.others id hne hd)
  marks := e₂.marks.trans e₁.marks
  ready := by
    obtain ⟨a, ha⟩ := e₁.ready
    obtain ⟨b, hb⟩ := e₂.ready
    exact ⟨a ++ b, by rw [hb, ha, List.append_assoc]⟩

/-- A change that keeps the queues, the cache, the workers and the line. -/
theorem of_frame (hs : h'.fanout.subscribers = h.fanout.subscribers)
    (hc : h'.fanout.cache = h.fanout.cache) (hw : h'.workers = h.workers) (hr : h'.ready = h.ready) :
    Echo j h h' := by
  have hr' : h'.fanout.roster = h.fanout.roster := by simp only [Fanout.roster, hs]
  refine ⟨hr', drives_congr hw, fun hl => hl.congr hr' hw, fun id x hx => ?_, fun id _ _ => ?_,
    reportMarks_congr hc, ⟨[], by rw [hr, List.append_nil]⟩⟩
  · rw [queueOf_congr hs] at hx
    exact .inl hx
  · rw [queueOf_congr hs]

/-- A publication of the driver's state. -/
theorem emit (j : Nat) (h : Host) (payload : Json) :
    Echo j h (h.emit provisioningStateTopic payload) := by
  rw [emit_eq_deliver]
  -- counting the publication touches only the host's own numbering
  have e₀ : Echo j h { h with fanout := h.fanout.countEmit provisioningStateTopic } :=
    of_frame rfl rfl rfl rfl
  refine e₀.trans ⟨?_, drives_congr (deliver_workers _ _ _), fun hl => ?_, fun id x hx => ?_,
    fun id _ hd => ?_, ?_, ?_⟩
  · exact deliver_roster _ _ _
  · exact hl.congr (deliver_roster _ _ _) (deliver_workers _ _ _)
  · exact (mem_deliver_queueOf _ hx).imp_right fun hxe => by rw [hxe]; rfl
  · exact deliver_queueOf_of_deaf _ hd
  · exact deliver_reportMarks _ (show provisioningStateTopic ∉ reportTopics by decide)
  · obtain ⟨extra, hx⟩ := deliver_appends { h with fanout := h.fanout.countEmit provisioningStateTopic } _ _
    exact ⟨extra, by rw [hx]⟩

/-- What the driver leaves of an echo, it keeps quiet: no report joins a queue. -/
theorem quietOn (he : Echo j h h') {P : Nat → Prop} (hq : h.QuietOn P) : h'.QuietOn P := by
  intro id hP hd x hx
  rw [he.drives] at hd
  rcases he.grow id x hx with hx | hx
  · exact hq id hP hd x hx
  · rw [hx]
    decide

end Echo

/-! ## One event through one worker -/

section Modify

variable {f : Worker → Worker}

/-- A change of one worker that keeps every worker's id and handler. -/
def KeepsRole (f : Worker → Worker) : Prop := ∀ v, (f v).id = v.id ∧ (f v).handler = v.handler

theorem worker?_modifyWorker (hf : KeepsRole f) (id i : Nat) :
    (h.modifyWorker id f).worker? i = (h.worker? i).map fun v => if v.id == id then f v else v := by
  unfold worker? modifyWorker
  dsimp only
  rw [List.find?_map]
  congr 2
  funext v
  simp only [Function.comp_apply]
  split <;> simp only [(hf v).1]

theorem drives_modifyWorker (hf : KeepsRole f) (id : Nat) : (h.modifyWorker id f).drives = h.drives := by
  funext i
  simp only [drives, h.worker?_modifyWorker hf, Option.any_map]
  congr 1
  funext v
  split <;> simp only [(hf v).2]

/-- Changing a worker that does not feed the driver, keeping ids and handlers, keeps the driver
listening. -/
theorem DriverListens.modifyWorker {h : Host} {id : Nat} {w : Worker} (hl : h.DriverListens)
    (hw : h.worker? id = some w) (hnd : w.handler.isDriver = false) (hf : KeepsRole f) :
    (h.modifyWorker id f).DriverListens := by
  have hd := h.drives_modifyWorker hf id
  have hwmem := List.mem_of_find?_eq_some hw
  have hwid : w.id = id := by simpa using List.find?_some hw
  refine ⟨hl.ids_nodup, ?_, ?_, fun i hi => hl.deaf i (hd ▸ hi), ?_⟩
  · unfold Host.modifyWorker
    dsimp only
    rw [List.map_map]
    convert hl.workers_nodup using 2
    funext v
    simp only [Function.comp_apply]
    split <;> simp only [(hf v).1]
  · intro v' hv' hdrv
    obtain ⟨v, hv, rfl⟩ := List.mem_map.mp hv'
    by_cases hvid : (v.id == id) = true
    · -- the changed worker is `w`, the one worker with its id, which does not drive
      rw [if_pos hvid] at hdrv
      have hvw : v = w := List.inj_on_of_nodup_map hl.workers_nodup hv hwmem (by simpa [hwid] using hvid)
      rw [(hf v).2, hvw, hnd] at hdrv
      cases hdrv
    · rw [if_neg hvid] at hdrv ⊢
      exact hl.unheld v hv hdrv
  · show ∀ t ∈ reportTopics, ∃ i, (h.fanout.roster.filter fun x =>
        x.2.matchesTopic t && (h.modifyWorker id f).drives x.1).map (·.1) = [i]
    rw [hd]
    exact hl.listens

end Modify

namespace Echo

variable {j : Nat}

theorem modifyWorker {id : Nat} {w : Worker} {f : Worker → Worker} (hw : h.worker? id = some w)
    (hnd : w.handler.isDriver = false) (hf : KeepsRole f) : Echo j h (h.modifyWorker id f) where
  roster := rfl
  drives := h.drives_modifyWorker hf id
  listens hl := hl.modifyWorker hw hnd hf
  grow _ _ hx := .inl hx
  others _ _ _ := rfl
  marks := rfl
  ready := ⟨[], (List.append_nil _).symm⟩

/-- Handling an event in a worker that does not feed the driver. -/
theorem handle_of_not_driver {w : Worker} (hw : h.worker? j = some w) (hnd : w.handler.isDriver = false)
    (x : TelemetryEvent) : Echo j h (h.handle w x).1 ∧ (h.handle w x).1.provisioning = h.provisioning := by
  have hwid : w.id = j := by simpa using List.find?_some hw
  rw [← hwid] at hw
  unfold handle
  cases hh : w.handler with
  | provisioning => rw [hh] at hnd; cases hnd
  | journal failsOn =>
    dsimp only
    split
    · exact ⟨of_frame rfl rfl rfl rfl, rfl⟩
    · exact ⟨modifyWorker h hw hnd fun _ => ⟨rfl, rfl⟩, rfl⟩
  | plugin name => exact ⟨of_frame rfl rfl rfl rfl, rfl⟩
  | channel capacity =>
    dsimp only
    split
    · exact ⟨modifyWorker h hw hnd fun _ => ⟨rfl, rfl⟩, rfl⟩
    · exact ⟨modifyWorker h hw hnd fun _ => ⟨rfl, rfl⟩, rfl⟩

end Echo

namespace Echo

variable {j : Nat}

/-- The driver's reaction to an event. -/
theorem onTelemetry (j : Nat) (h : Host) (x : TelemetryEvent) : Echo j h (h.onTelemetry x) := by
  cases he : telemetryInput x with
  | none =>
    rcases h.onTelemetry_of_none_eq he with hx | hx <;> rw [hx]
    · exact refl j h
    · exact emit j h _
  | some i =>
    cases hstep : h.provisioning.step i with
    | error err =>
      rw [h.onTelemetry_of_refused he hstep]
      exact refl j h
    | ok p =>
      obtain ⟨next, effs⟩ := p
      rw [h.onTelemetry_of_input he, h.applyInput_of_telemetry (telemetryInput_source he) hstep]
      obtain ⟨joinTimer, sessions, hfold⟩ := h.foldl_carryOut_eq effs
      rw [hfold]
      unfold publishProvisioning
      -- the effects touch the timer and the sessions; then the next state is published
      refine trans ?_ (emit j _ _)
      exact of_frame rfl rfl rfl rfl

/-- Taking the oldest event off subscription `j`'s queue. -/
theorem pop {x : TelemetryEvent} {f' : Fanout} (hp : h.fanout.pop? j = some (x, f')) :
    Echo j h { h with fanout := f' } := by
  obtain ⟨hq, hc, hr, ho⟩ := h.pop?_spec hp
  refine ⟨hr, rfl, fun hl => hl.congr hr rfl, fun id y hy => ?_, fun id hne _ => ho id hne,
    reportMarks_congr hc, ⟨[], (List.append_nil _).symm⟩⟩
  by_cases hid : id = j
  · subst hid
    rw [hq]
    exact .inl (List.mem_cons_of_mem x hy)
  · rw [ho id hid] at hy
    exact .inl hy

end Echo

/-- The driver's reaction leaves the queue of every subscription deaf to its publications. -/
theorem onTelemetry_queueOf_of_deaf (x : TelemetryEvent) {id : Nat} (hd : h.Deaf id) :
    (h.onTelemetry x).queueOf id = h.queueOf id :=
  (Echo.onTelemetry (id + 1) h x).others id (Nat.succ_ne_self id).symm hd

theorem handle_of_driver {w : Worker} (hd : w.handler.isDriver = true) (x : TelemetryEvent) :
    h.handle w x = (h.onTelemetry x, false) := by
  unfold handle
  cases hh : w.handler with
  | provisioning => rfl
  | journal _ | plugin _ | channel _ =>
    rw [hh] at hd
    cases hd

/-- A worker takes the head of its queue and hands it to its handler: the host after it is an
echo, and the provisioning state moves by hearing the event exactly when the worker is the
driver's. -/
theorem take_spec {j : Nat} {w : Worker} (hw : h.worker? j = some w) {x : TelemetryEvent} {f' : Fanout}
    (hp : h.fanout.pop? j = some (x, f')) :
    Echo j h (handle { h with fanout := f' } w x).1 ∧
      (handle { h with fanout := f' } w x).1.provisioning =
        if w.handler.isDriver then h.provisioning.hear x else h.provisioning := by
  have e₁ := Echo.pop h hp
  cases hd : w.handler.isDriver with
  | true =>
    rw [handle_of_driver _ hd]
    exact ⟨e₁.trans (Echo.onTelemetry j _ x), onTelemetry_provisioning _ x⟩
  | false =>
    obtain ⟨e₂, hprov⟩ := Echo.handle_of_not_driver { h with fanout := f' } hw hd x
    exact ⟨e₁.trans e₂, hprov⟩

/-- What holds of a host and survives a worker's taking the head of its queue holds after the
worker's run. -/
theorem runWorker_induct {j : Nat} (P : Host → Prop)
    (step : ∀ (h : Host) (w : Worker) (x : TelemetryEvent) (f' : Fanout), P h → h.worker? j = some w →
      h.fanout.pop? j = some (x, f') → P (handle { h with fanout := f' } w x).1) :
    ∀ (fuel : Nat) (h : Host), P h → P (h.runWorker j fuel) := by
  intro fuel
  induction fuel with
  | zero => exact fun h hP => hP
  | succ fuel ih =>
    intro h hP
    unfold runWorker
    split
    · exact hP
    · rename_i w hw
      split
      · exact hP
      · split
        · exact hP
        · rename_i x fanout hpop
          have hstep := step h w x fanout hP hw hpop
          split
          · rename_i h' heq
            rw [heq] at hstep
            exact hstep
          · rename_i h' heq
            rw [heq] at hstep
            exact ih h' hstep

/-- Running the worker of subscription `j` only echoes. -/
theorem runWorker_echo (j fuel : Nat) : Echo j h (h.runWorker j fuel) :=
  runWorker_induct (Echo j h) (fun _ _ _ _ he hw hp => he.trans (take_spec _ hw hp).1) fuel h
    (Echo.refl j h)

/-- A worker's run leaves the provisioning state when no report waits in its queue for the
driver. -/
theorem runWorker_provisioning_of_quiet {j : Nat} (fuel : Nat) (hq : h.QuietOn (· = j)) :
    (h.runWorker j fuel).provisioning = h.provisioning := by
  refine (runWorker_induct (fun h' => h'.QuietOn (· = j) ∧ h'.provisioning = h.provisioning)
    (fun h' w x f' ⟨hq', hprov⟩ hw hp => ?_) fuel h ⟨hq, rfl⟩).2
  obtain ⟨e, hstep⟩ := take_spec h' hw hp
  refine ⟨e.quietOn hq', ?_⟩
  rw [hstep, ← hprov]
  cases hd : w.handler.isDriver with
  | false => rfl
  | true =>
    -- the driver's event was the head of a queue with no report in it
    have hdr : h'.drives j = true := by simp [drives, hw, hd]
    have hx : x ∈ h'.queueOf j := by rw [(h'.pop?_spec hp).1]; exact List.mem_cons_self ..
    exact ProvisioningState.hear_of_not_report (hq' j rfl hdr x hx) _

/-! ## The driver's own run -/

theorem worker?_of_drives {j : Nat} (hd : h.drives j = true) :
    ∃ w, h.worker? j = some w ∧ w.handler.isDriver = true := by
  unfold drives at hd
  cases hw : h.worker? j with
  | none =>
    rw [hw] at hd
    cases hd
  | some w =>
    rw [hw] at hd
    exact ⟨w, rfl, hd⟩

theorem pop?_of_queueOf_cons {j : Nat} {x : TelemetryEvent} {rest : List TelemetryEvent}
    (hq : h.queueOf j = x :: rest) : ∃ f', h.fanout.pop? j = some (x, f') := by
  unfold Fanout.pop?
  cases hs : h.fanout.subscribers.find? (·.id == j) with
  | none =>
    rw [queueOf, hs] at hq
    cases hq
  | some s =>
    have he : s.queue.events = x :: rest := by
      simpa only [queueOf, hs, Option.map_some, Option.getD_some] using hq
    have hpop : s.queue.pop? = some (x, { s.queue with events := rest }) := by
      unfold EventQueue.pop?
      rw [he]
    dsimp only
    rw [hpop]
    exact ⟨_, rfl⟩

/-- A worker's run on an empty queue leaves the host. -/
theorem runWorker_of_queueOf_nil {j : Nat} (hq : h.queueOf j = []) (fuel : Nat) : h.runWorker j fuel = h := by
  cases fuel with
  | zero => rfl
  | succ fuel =>
    unfold runWorker
    split
    · rfl
    · split
      · rfl
      · split
        · rfl
        · rename_i x f' hp
          have hcons := (h.pop?_spec hp).1
          rw [hq] at hcons
          cases hcons

/-- A worker that holds nothing and finds an event takes it, and goes on unless it now waits
for its channel. -/
theorem runWorker_succ_of_pop {j fuel : Nat} {w : Worker} (hw : h.worker? j = some w) (hheld : w.held = none)
    {x : TelemetryEvent} {f' : Fanout} (hp : h.fanout.pop? j = some (x, f'))
    (hgo : (handle { h with fanout := f' } w x).2 = false) :
    h.runWorker j (fuel + 1) = (handle { h with fanout := f' } w x).1.runWorker j fuel := by
  generalize hR : (handle { h with fanout := f' } w x).1.runWorker j fuel = R
  unfold runWorker
  split
  · rename_i hn
    rw [hw] at hn
    cases hn
  · rename_i w' hw'
    rw [hw] at hw'
    cases hw'
    split
    · rename_i hs
      rw [hheld] at hs
      cases hs
    · split
      · rename_i hn
        rw [hp] at hn
        cases hn
      · rename_i x' f'' hp'
        rw [hp] at hp'
        cases hp'
        cases hr : handle { h with fanout := f' } w x with
        | mk h₂ b =>
          rw [hr] at hgo hR
          subst hgo
          exact hR

/-- The driver's worker, run with fuel for its queue, hears the events of its queue in order
and empties it. -/
theorem runWorker_driver {j : Nat} :
    ∀ (qs : List TelemetryEvent) (fuel : Nat) (h : Host), h.DriverListens → h.drives j = true →
      h.queueOf j = qs → qs.length ≤ fuel →
      (h.runWorker j fuel).provisioning = qs.foldl ProvisioningState.hear h.provisioning ∧
        (h.runWorker j fuel).queueOf j = [] := by
  intro qs
  induction qs with
  | nil =>
    intro fuel h _ _ hq _
    rw [h.runWorker_of_queueOf_nil hq]
    exact ⟨rfl, hq⟩
  | cons x rest ih =>
    intro fuel h hl hd hq hf
    obtain ⟨f, rfl⟩ : ∃ f, fuel = f + 1 := ⟨fuel - 1, by simp only [List.length_cons] at hf; omega⟩
    obtain ⟨w, hw, hdrv⟩ := h.worker?_of_drives hd
    have hheld := hl.unheld w (List.mem_of_find?_eq_some hw) hdrv
    obtain ⟨f', hp⟩ := h.pop?_of_queueOf_cons hq
    obtain ⟨e, hprov⟩ := h.take_spec hw hp
    have hgo : (handle { h with fanout := f' } w x).2 = false := by rw [handle_of_driver _ hdrv]
    rw [h.runWorker_succ_of_pop hw hheld hp hgo]
    -- the driver's reaction leaves its own queue, which does not hear its publications
    have hrest : (handle { h with fanout := f' } w x).1.queueOf j = rest := by
      rw [handle_of_driver _ hdrv, onTelemetry_queueOf_of_deaf _ x ((hl.deaf j hd).congr (h.pop?_spec hp).2.2.1)]
      have hcons := (h.pop?_spec hp).1
      rw [hq] at hcons
      exact (List.cons.inj hcons).2.symm
    have hrun := ih f _ (e.listens hl) (e.drives ▸ hd) hrest (by simpa using hf)
    rw [hprov, if_pos hdrv] at hrun
    exact hrun

/-! ## Rounds of workers -/

theorem QuietOn.mono {h : Host} {P Q : Nat → Prop} (hq : h.QuietOn P) (hPQ : ∀ id, Q id → P id) : h.QuietOn Q :=
  fun id hQ => hq id (hPQ id hQ)

/-- Events the driver hears that are no reports leave its state. -/
theorem foldl_hear_of_not_report {es : List TelemetryEvent} (hes : ∀ x ∈ es, x.topic ∉ reportTopics)
    (s : ProvisioningState) : es.foldl ProvisioningState.hear s = s := by
  induction es with
  | nil => rfl
  | cons x rest ih =>
    rw [List.foldl_cons, ProvisioningState.hear_of_not_report (hes x (List.mem_cons_self ..)),
      ih fun y hy => hes y (List.mem_cons_of_mem x hy)]

theorem le_foldl_add {α : Type} (g : α → Nat) :
    ∀ (l : List α) (a : Nat), a ≤ l.foldl (fun n s => n + g s) a
  | [], _ => Nat.le_refl _
  | y :: rest, a => Nat.le_trans (Nat.le_add_right a (g y)) (le_foldl_add g rest (a + g y))

theorem le_foldl_add_of_mem {α : Type} (g : α → Nat) {x : α} :
    ∀ {l : List α}, x ∈ l → ∀ a : Nat, a + g x ≤ l.foldl (fun n s => n + g s) a
  | y :: rest, hx, a => by
    rcases List.mem_cons.mp hx with rfl | hx
    · exact le_foldl_add g rest (a + g x)
    · have := le_foldl_add_of_mem g hx (a + g y)
      rw [List.foldl_cons]
      omega

/-- A queue is no longer than all of them together. -/
theorem length_queueOf_le (id : Nat) : (h.queueOf id).length ≤ h.queuedCount := by
  unfold queueOf queuedCount
  cases hs : h.fanout.subscribers.find? (·.id == id) with
  | none => exact Nat.zero_le _
  | some s =>
    have := le_foldl_add_of_mem (fun s : Subscriber => s.queue.events.length) (List.mem_of_find?_eq_some hs) 0
    simpa only [Option.map_some, Option.getD_some, Nat.zero_add] using this

/-- The driver is at rest: it listens as it was started, no report waits for it, its state is
`s`, and the bus stands at `marks` for reports. -/
structure AtRest (h : Host) (s : ProvisioningState) (marks : Nat × List (Option Nat)) : Prop where
  listens : h.DriverListens
  idle : h.DriverIdle
  state : h.provisioning = s
  marks : h.reportMarks = marks

namespace AtRest

variable {h} {s : ProvisioningState} {m : Nat × List (Option Nat)}

theorem runWorker (hr : h.AtRest s m) (j fuel : Nat) : (h.runWorker j fuel).AtRest s m := by
  have e := h.runWorker_echo j fuel
  exact ⟨e.listens hr.listens, e.quietOn hr.idle,
    (h.runWorker_provisioning_of_quiet fuel (hr.idle.mono fun _ _ => trivial)).trans hr.state,
    e.marks.trans hr.marks⟩

theorem runReady : ∀ (fuel : Nat) {h : Host}, h.AtRest s m → (h.runReady fuel).AtRest s m := by
  intro fuel
  induction fuel with
  | zero => exact fun hr => hr
  | succ fuel ih =>
    intro h hr
    unfold Host.runReady
    split
    · exact hr
    · rename_i j rest _
      -- the first worker in line leaves it and runs
      have hr₁ : ({ h with ready := rest } : Host).AtRest s m :=
        ⟨hr.listens.congr rfl rfl, hr.idle.congr rfl rfl, hr.state, hr.marks⟩
      exact ih (hr₁.runWorker j _)

end AtRest

/-- Event `e` waits for the driver at subscription `i`, whose worker is in line, behind events
that are no reports; no report waits for the driver anywhere else. -/
structure Awaits (h : Host) (i : Nat) (e : TelemetryEvent) : Prop where
  listens : h.DriverListens
  drives : h.drives i = true
  waiting : i ∈ h.ready
  queue : ∃ before, h.queueOf i = before ++ [e] ∧ ∀ x ∈ before, x.topic ∉ reportTopics
  quiet : h.QuietOn (· ≠ i)

/-- Rounds of workers that reach the one `e` waits at hear it once, and leave the driver at
rest. -/
theorem Awaits.runReady {i : Nat} {e : TelemetryEvent} :
    ∀ (fuel : Nat) {h : Host}, h.Awaits i e → h.ready.idxOf i < fuel →
      (h.runReady fuel).AtRest (h.provisioning.hear e) h.reportMarks := by
  intro fuel
  induction fuel with
  | zero => exact fun _ hlt => absurd hlt (Nat.not_lt_zero _)
  | succ fuel ih =>
    intro h ha hlt
    unfold Host.runReady
    split
    · rename_i hnil
      have := ha.waiting
      rw [hnil] at this
      cases this
    · rename_i j rest hready
      dsimp only
      have hl₁ : ({ h with ready := rest } : Host).DriverListens := ha.listens.congr rfl rfl
      have e₁ := ({ h with ready := rest } : Host).runWorker_echo j (({ h with ready := rest } : Host).queuedCount + 1)
      by_cases hji : j = i
      · subst hji
        -- the worker `e` waits at runs first, hears what is queued before `e`, then `e`
        obtain ⟨before, hq, hbefore⟩ := ha.queue
        obtain ⟨hprov, hempty⟩ := runWorker_driver (before ++ [e])
          (({ h with ready := rest } : Host).queuedCount + 1) _ hl₁ ha.drives hq
          (by rw [← hq]; exact Nat.le_succ_of_le (length_queueOf_le _ j))
        rw [List.foldl_append, foldl_hear_of_not_report hbefore, List.foldl_cons, List.foldl_nil] at hprov
        refine AtRest.runReady fuel ⟨e₁.listens hl₁, fun id _ hd x hx => ?_, hprov, e₁.marks⟩
        by_cases hid : id = j
        · rw [hid, hempty] at hx
          cases hx
        · exact e₁.quietOn (ha.quiet.congr rfl rfl) id hid hd x hx
      · -- another worker runs first; it leaves `e`'s queue and hears no report
        have hprov := ({ h with ready := rest } : Host).runWorker_provisioning_of_quiet
          (({ h with ready := rest } : Host).queuedCount + 1)
          ((ha.quiet.congr rfl rfl).mono fun _ hid => hid ▸ hji)
        have hi : i ∈ rest := (List.mem_cons.mp (hready ▸ ha.waiting)).resolve_left (Ne.symm hji)
        obtain ⟨extra, hextra⟩ := e₁.ready
        have ha₂ : Awaits _ i e := ⟨e₁.listens hl₁, e₁.drives ▸ ha.drives, by rw [hextra]; exact List.mem_append_left _ hi,
          by rw [e₁.others i (Ne.symm hji) ((hl₁.deaf i ha.drives))]; exact ha.queue,
          e₁.quietOn (ha.quiet.congr rfl rfl)⟩
        have hlt₂ : (({ h with ready := rest } : Host).runWorker j
            (({ h with ready := rest } : Host).queuedCount + 1)).ready.idxOf i < fuel := by
          rw [hextra, List.idxOf_append_of_mem hi]
          rw [hready, List.idxOf_cons_ne rest hji] at hlt
          exact Nat.lt_of_succ_lt_succ hlt
        have hr := ih ha₂ hlt₂
        rw [hprov, e₁.marks] at hr
        exact hr

/-! ## A round of background work -/

/-- A request changes the bus's counters only. -/
theorem request_eq (c : Command) :
    ∃ counters, (h.request c).2 = { h with fanout := { h.fanout with counters } } := by
  unfold request
  split
  · exact ⟨_, rfl⟩
  · split
    · exact ⟨h.fanout.counters, rfl⟩
    · split <;> exact ⟨h.fanout.counters, rfl⟩

/-- A plugin's request changes the registry, where its outcome is noted, and the bus's counters
only. -/
theorem runPluginRequest_eq (plugin : String) (d : CommandDraft) :
    ∃ registry counters, h.runPluginRequest plugin d =
      { h with registry, fanout := { h.fanout with counters } } := by
  obtain ⟨counters, hc⟩ :=
    h.request_eq { id := default, topic := d.topic, payload := d.payload, issuer := some ⟨plugin⟩ }
  unfold runPluginRequest
  split
  rename_i r h₂ hreq
  have hh₂ : h₂ = { h with fanout := { h.fanout with counters } } := by rw [← hc, hreq]
  subst hh₂
  exact ⟨_, counters, rfl⟩

theorem foldl_requests_eq {α : Type} {g : Host → α → Host}
    (hg : ∀ (h : Host) (a : α), ∃ registry counters, g h a = { h with registry, fanout := { h.fanout with counters } }) :
    ∀ (l : List α) (h : Host), ∃ registry counters,
      l.foldl g h = { h with registry, fanout := { h.fanout with counters } } := by
  intro l
  induction l with
  | nil => exact fun h => ⟨h.registry, h.fanout.counters, rfl⟩
  | cons a rest ih =>
    intro h
    obtain ⟨r₁, c₁, h₁⟩ := hg h a
    obtain ⟨r₂, c₂, h₂⟩ := ih (g h a)
    refine ⟨r₂, c₂, ?_⟩
    rw [List.foldl_cons, h₂, h₁]

/-- Settling runs the plugins' requests, which change the registry and the bus's counters
only, then rounds of the workers in line. -/
theorem settle_eq : ∃ registry counters, h.settle =
    ({ h with registry, fanout := { h.fanout with counters }, pendingRequests := [] } : Host).runReady
      ((h.ready.length + 1) * (h.fanout.subscribers.length + 2) * 2) := by
  have key : ∀ h' : Host, (∃ registry counters,
      h' = { h with registry, fanout := { h.fanout with counters }, pendingRequests := [] }) →
      ∃ registry counters, h'.runReady ((h'.ready.length + 1) * (h'.fanout.subscribers.length + 2) * 2) =
        ({ h with registry, fanout := { h.fanout with counters }, pendingRequests := [] } : Host).runReady
          ((h.ready.length + 1) * (h.fanout.subscribers.length + 2) * 2) := by
    rintro _ ⟨registry, counters, rfl⟩
    exact ⟨registry, counters, rfl⟩
  unfold settle
  refine key _ (foldl_requests_eq (fun h x => ?_) _ _)
  obtain ⟨p, d⟩ := x
  exact h.runPluginRequest_eq p d

/-- A round of background work with no report waiting for the driver leaves it at rest where
it was. -/
theorem AtRest.settle {s : ProvisioningState} {m : Nat × List (Option Nat)} (hr : h.AtRest s m) :
    h.settle.AtRest s m := by
  obtain ⟨registry, counters, hs⟩ := h.settle_eq
  rw [hs]
  exact AtRest.runReady _ ⟨hr.listens.congr rfl rfl, hr.idle.congr rfl rfl, hr.state, hr.marks⟩

/-- A round of background work hears the event that waits for the driver, once. -/
theorem Awaits.settle {i : Nat} {e : TelemetryEvent} (ha : h.Awaits i e) :
    h.settle.AtRest (h.provisioning.hear e) h.reportMarks := by
  obtain ⟨registry, counters, hs⟩ := h.settle_eq
  rw [hs]
  refine Awaits.runReady _ ⟨ha.listens.congr rfl rfl, ha.drives, ha.waiting, ha.queue, ha.quiet.congr rfl rfl⟩ ?_
  -- every worker in line gets its turn
  have hidx : h.ready.idxOf i < h.ready.length := List.idxOf_lt_length_of_mem ha.waiting
  calc h.ready.idxOf i < h.ready.length + 1 := Nat.lt_succ_of_lt hidx
    _ ≤ (h.ready.length + 1) * (h.fanout.subscribers.length + 2) := Nat.le_mul_of_pos_right _ (by omega)
    _ ≤ (h.ready.length + 1) * (h.fanout.subscribers.length + 2) * 2 := Nat.le_mul_of_pos_right _ (by omega)

end Host

/-- With distinct ids, the bus finds for an id of its roster the subscription that entry lists. -/
theorem Fanout.find?_of_roster {f : Fanout} (hn : (f.roster.map (·.1)).Nodup) {x : Nat × TopicPattern}
    (hx : x ∈ f.roster) : ∃ sub, f.subscribers.find? (·.id == x.1) = some sub ∧ sub.pattern = x.2 := by
  obtain ⟨sub₀, hsub₀, rfl⟩ := List.mem_map.mp hx
  cases hfind : f.subscribers.find? (·.id == sub₀.id) with
  | none => exact absurd (beq_self_eq_true sub₀.id) (List.find?_eq_none.mp hfind sub₀ hsub₀)
  | some sub =>
    have hid : sub.id = sub₀.id := by simpa using List.find?_some hfind
    have hmem : (sub.id, sub.pattern) ∈ f.roster := List.mem_map_of_mem (List.mem_of_find?_eq_some hfind)
    have heq := List.inj_on_of_nodup_map hn hmem hx hid
    exact ⟨sub, rfl, (Prod.mk.inj heq).2⟩

namespace Host

variable (h : Host)

/-! ## An offer, then a round -/

/-- An offer the cache refuses, or of an event that is no report, leaves the driver idle. -/
theorem deliver_idle {epoch : Nat} {e : TelemetryEvent} (hi : h.DriverIdle)
    (hn : h.fanout.cache.admission epoch e ≠ .fresh ∨ e.topic ∉ reportTopics) :
    (h.deliver epoch e).DriverIdle := by
  intro id _ hd x hx
  rw [drives_congr (deliver_workers h epoch e)] at hd
  rcases hn with hn | hn
  · rw [deliver_queueOf, if_neg hn] at hx
    exact hi id trivial hd x hx
  · rcases mem_deliver_queueOf h hx with hx | rfl
    · exact hi id trivial hd x hx
    · exact hn

/-- An offer the driver does not hear, because the bus refuses it or it is no report, leaves
the driver at rest with the marks of the bus after the offer. -/
theorem AtRest.deliver_unheard {s : ProvisioningState} {m : Nat × List (Option Nat)} (hr : h.AtRest s m)
    {epoch : Nat} {e : TelemetryEvent} (hn : h.fanout.cache.admission epoch e ≠ .fresh ∨ e.topic ∉ reportTopics) :
    (h.deliver epoch e).AtRest s (h.deliver epoch e).reportMarks where
  listens := hr.listens.congr (deliver_roster h epoch e) (deliver_workers h epoch e)
  idle := h.deliver_idle hr.idle hn
  state := (deliver_provisioning h epoch e).trans hr.state
  marks := rfl

/-- A fresh report on offer to a driver at rest joins the queue of the driver's one
subscription to its topic, behind events that are no reports, and that subscription's worker
is in line. -/
theorem AtRest.deliver_awaits {s : ProvisioningState} {m : Nat × List (Option Nat)} (hr : h.AtRest s m)
    {epoch : Nat} {e : TelemetryEvent} (hf : h.fanout.cache.admission epoch e = .fresh)
    (he : e.topic ∈ reportTopics) : ∃ i, (h.deliver epoch e).Awaits i e := by
  obtain ⟨i, hi⟩ := hr.listens.listens e.topic he
  -- the one entry of the roster that hears the report for the driver
  obtain ⟨x, hxf, rfl⟩ := List.mem_map.mp (hi ▸ List.mem_singleton_self i)
  obtain ⟨hxr, hxm⟩ := List.mem_filter.mp hxf
  obtain ⟨hm, hd⟩ := Bool.and_eq_true_iff.mp hxm
  have honly : ∀ y ∈ h.fanout.roster, y.2.matchesTopic e.topic = true → h.drives y.1 = true → y.1 = x.1 := by
    intro y hy hym hyd
    have : y.1 ∈ [x.1] := hi ▸ List.mem_map_of_mem (List.mem_filter.mpr ⟨hy, by rw [hym, hyd]; rfl⟩)
    exact List.mem_singleton.mp this
  obtain ⟨sub, hfind, hpat⟩ := Fanout.find?_of_roster hr.listens.ids_nodup hxr
  have hsub : sub.id = x.1 := by simpa using List.find?_some hfind
  obtain ⟨w, hw, hdrv⟩ := h.worker?_of_drives hd
  have hheld := hr.listens.unheld w (List.mem_of_find?_eq_some hw) hdrv
  have hq : h.queueOf x.1 = sub.queue.events := by
    simp only [queueOf, hfind, Option.map_some, Option.getD_some]
  refine ⟨x.1, hr.listens.congr (deliver_roster h epoch e) (deliver_workers h epoch e),
    drives_congr (deliver_workers h epoch e) ▸ hd, ?_, ⟨h.queueOf x.1, ?_, fun y hy => hr.idle x.1 trivial hd y hy⟩, ?_⟩
  · have := h.mem_deliver_ready hf (List.mem_of_find?_eq_some hfind) (hpat ▸ hm) (hsub ▸ hw) hheld
    rwa [hsub] at this
  · -- the queue held no report, so none on the report's topic to push out
    have hnone : ∀ y ∈ sub.queue.events, y.topic ≠ e.topic := fun y hy hyt =>
      hr.idle x.1 trivial hd y (hq ▸ hy) (hyt ▸ he)
    rw [deliver_queueOf, if_pos hf, hfind, hq]
    simp only [Option.map_some, Option.getD_some, Fanout.offerTo, hpat, hm, if_true]
    exact EventQueue.push_events_of_forall hnone
  · -- any other subscription of the driver does not hear the report, and keeps its queue
    intro id hid hdid y hy
    rw [drives_congr (deliver_workers h epoch e)] at hdid
    have hdeaf : ∀ z ∈ h.fanout.roster, z.1 = id → z.2.matchesTopic e.topic = false := by
      intro z hz hzid
      cases hzm : z.2.matchesTopic e.topic with
      | false => rfl
      | true => exact absurd (hzid ▸ honly z hz hzm (hzid ▸ hdid)) (fun h => hid (hzid ▸ h))
    rw [deliver_queueOf_of_deaf h hdeaf] at hy
    exact hr.idle id trivial hdid y hy

/-- Offering an event to a driver at rest and letting a round of background work run: the
driver hears the event exactly when the bus takes it, and is at rest again where the offer left
the bus. -/
theorem AtRest.deliver_settle {s : ProvisioningState} {m : Nat × List (Option Nat)} (hr : h.AtRest s m)
    (epoch : Nat) (e : TelemetryEvent) :
    (h.deliver epoch e).settle.AtRest
      (if h.fanout.cache.admission epoch e = .fresh then s.hear e else s) (h.deliver epoch e).reportMarks := by
  by_cases hf : h.fanout.cache.admission epoch e = .fresh
  · rw [if_pos hf]
    by_cases he : e.topic ∈ reportTopics
    · obtain ⟨i, ha⟩ := hr.deliver_awaits h hf he
      have hs := ha.settle
      rwa [deliver_provisioning, hr.state] at hs
    · rw [ProvisioningState.hear_of_not_report he]
      exact AtRest.settle _ (hr.deliver_unheard h (.inr he))
  · rw [if_neg hf]
    exact AtRest.settle _ (hr.deliver_unheard h (.inl hf))

/-! ## The driver as started -/

/-- The patterns of the driver's three topics, and which of the topics it reads or publishes
each matches. -/
theorem provisioningTopics_patterns :
    ∃ p₁ p₂ p₃ : TopicPattern, TopicPattern.parse portalAdvertisedTopic = .ok p₁ ∧
      TopicPattern.parse wifiStaTopic = .ok p₂ ∧ TopicPattern.parse linkStateTopic = .ok p₃ ∧
      [p₁, p₂, p₃].map (fun p => [provisioningStateTopic, portalAdvertisedTopic, wifiStaTopic].map p.matchesTopic) =
        [[false, true, false], [false, false, true], [false, false, false]] := by
  have hd : provisioningTopics.map (fun t => (TopicPattern.parse t).toOption.map fun p =>
      [provisioningStateTopic, portalAdvertisedTopic, wifiStaTopic].map p.matchesTopic) =
      [some [false, true, false], some [false, false, true], some [false, false, false]] := by
    decide +kernel
  simp only [provisioningTopics, List.map_cons, List.map_nil] at hd
  cases hp₁ : TopicPattern.parse portalAdvertisedTopic <;>
  cases hp₂ : TopicPattern.parse wifiStaTopic <;>
  cases hp₃ : TopicPattern.parse linkStateTopic <;>
  simp_all [Except.toOption]

theorem subscribeWith_roster (p : TopicPattern) (o : Option PluginId) (handler : Handler) :
    (h.subscribeWith p o handler).2.fanout.roster = h.fanout.roster ++ [(h.fanout.nextId, p)] := by
  show (h.fanout.subscribers ++ [_]).map _ = _
  rw [List.map_append]
  rfl

theorem subscribeWith_workers (p : TopicPattern) (o : Option PluginId) (handler : Handler) :
    (h.subscribeWith p o handler).2.workers = h.workers ++ [{ id := h.fanout.nextId, handler }] := rfl

theorem subscribeWith_nextId (p : TopicPattern) (o : Option PluginId) (handler : Handler) :
    (h.subscribeWith p o handler).2.fanout.nextId = h.fanout.nextId + 1 := rfl

/-- Starting the driver subscribes it to its three topics under the bus's next three ids, each
with a worker of its own. -/
theorem startProvisioning_subscribes {p₁ p₂ p₃ : TopicPattern}
    (hp₁ : TopicPattern.parse portalAdvertisedTopic = .ok p₁) (hp₂ : TopicPattern.parse wifiStaTopic = .ok p₂)
    (hp₃ : TopicPattern.parse linkStateTopic = .ok p₃) :
    h.startProvisioning.fanout.roster = h.fanout.roster ++
      [(h.fanout.nextId, p₁), (h.fanout.nextId + 1, p₂), (h.fanout.nextId + 2, p₃)] ∧
    h.startProvisioning.workers = h.workers ++ [{ id := h.fanout.nextId, handler := .provisioning },
      { id := h.fanout.nextId + 1, handler := .provisioning }, { id := h.fanout.nextId + 2, handler := .provisioning }] := by
  unfold startProvisioning
  simp only [provisioningTopics, List.foldl_cons, List.foldl_nil, hp₁, hp₂, hp₃, subscribeWith_roster,
    subscribeWith_nextId, subscribeWith_workers, List.append_assoc, List.cons_append, List.nil_append, and_self]

/-- The driver started on a host with no subscriptions listens as `DriverListens` says. -/
theorem DriverListens.startProvisioning {h : Host} (hs : h.fanout.roster = []) (hw : h.workers = []) :
    h.startProvisioning.DriverListens := by
  obtain ⟨p₁, p₂, p₃, hp₁, hp₂, hp₃, hm⟩ := provisioningTopics_patterns
  obtain ⟨hr, hwk⟩ := h.startProvisioning_subscribes hp₁ hp₂ hp₃
  rw [hs, List.nil_append] at hr
  rw [hw, List.nil_append] at hwk
  simp only [List.map_cons, List.map_nil, List.cons.injEq, and_true] at hm
  obtain ⟨⟨hs₁, ha₁, hw₁⟩, ⟨hs₂, ha₂, hw₂⟩, ⟨hs₃, ha₃, hw₃⟩⟩ := hm
  -- each of the three ids finds its own worker, which feeds the driver
  have h₀ : h.startProvisioning.drives h.fanout.nextId = true := by simp [drives, worker?, hwk, Handler.isDriver]
  have h₁ : h.startProvisioning.drives (h.fanout.nextId + 1) = true := by simp [drives, worker?, hwk, Handler.isDriver]
  have h₂ : h.startProvisioning.drives (h.fanout.nextId + 2) = true := by simp [drives, worker?, hwk, Handler.isDriver]
  refine ⟨?_, ?_, ?_, ?_, ?_⟩
  · rw [hr]
    simp
  · rw [hwk]
    simp
  · rw [hwk]
    simp
  · intro id _ x hx _
    rw [hr] at hx
    simp only [List.mem_cons, List.not_mem_nil, or_false] at hx
    rcases hx with rfl | rfl | rfl <;> assumption
  · intro t ht
    simp only [reportTopics, List.mem_cons, List.not_mem_nil, or_false] at ht
    rcases ht with rfl | rfl
    · exact ⟨h.fanout.nextId, by simp [hr, ha₁, ha₂, ha₃, h₀, h₁, h₂]⟩
    · exact ⟨h.fanout.nextId + 1, by simp [hr, hw₁, hw₂, hw₃, h₀, h₁, h₂]⟩

end Host

end Tether
