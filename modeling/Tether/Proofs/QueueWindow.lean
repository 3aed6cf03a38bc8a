import Mathlib.Data.List.DropRight
import Tether.Bus.Inbox
import Tether.Proofs.BusRun
/-!
# Proofs.QueueWindow — a subscriber's queue holds the newest events of each topic

A subscriber's queue holds at most `limit` events of a topic: a push onto a topic at its
limit first removes the oldest queued event of that topic (`EventQueue.push_evicts_oldest`).
What that eviction amounts to is a sliding window.  Record every push of a run in order, and
mark a recorded push once the worker has taken it or a clear has discarded it
(`InboxSpec`).  Then the queue holds exactly the recorded events that are among the newest
`limit` of their topic and are not marked, in push order (`Pushed.visible`), and eviction
is never mentioned: an event leaves the window once `limit` newer events of its topic have
been pushed (`Pushed.window_filter_onTopic`).

`InboxSpec.perform` says what each operation answers by the record alone: a push reports an
eviction when its topic already shows `limit` events, the worker gets the oldest event shown
(or waits, or once the subscription has ended, stops), and a clear marks everything.
`InboxRefines` ties an inbox to its record; every operation answers alike and keeps it
(`InboxRefines.perform`), so it holds along every run from a new inbox
(`InboxRefines.runOps`).

Why eviction and the window agree: within the window, the marked pushes of a topic come
before the unmarked ones (`Pushed.TakenFirst`), since the worker takes the oldest event and a
clear takes them all.  So a topic shows `limit` events exactly when the push about to leave
the window is still shown, and then it is the oldest one shown (`Pushed.visible_eraseP`).

A new subscriber's queue starts with the cached value of every matching topic, one per
topic, and filling it evicts nothing (`Fanout.replay_evicts_nothing`).

The main statement is `inbox_keeps_newest_per_topic`.
-/

namespace Tether

set_option autoImplicit false

/-! ## Eviction -/

namespace EventQueue

/-- Pushing out the oldest event of a topic erases the first event on it. -/
theorem dropFirstOn_eq_eraseP (t : String) (es : List TelemetryEvent) :
    dropFirstOn t es = es.eraseP (·.topic == t) := by
  induction es with
  | nil => rfl
  | cons e rest ih =>
    unfold dropFirstOn
    by_cases h : e.topic = t
    · simp [h]
    · simp [h, ih]

theorem push_eq (q : EventQueue) (e : TelemetryEvent) :
    q.push e = ({ q with events := (if q.limit ≤ q.countOn e.topic then
        q.events.eraseP (·.topic == e.topic) else q.events) ++ [e] },
      decide (q.limit ≤ q.countOn e.topic)) := by
  unfold push
  split <;> simp_all [dropFirstOn_eq_eraseP]

/-- A push that reports an eviction, onto a queue that keeps at least one event of a topic,
removed the oldest queued event of the topic and left every other event in its place. -/
theorem push_evicts_oldest {q : EventQueue} {e : TelemetryEvent} (hpos : 0 < q.limit)
    (h : (q.push e).2 = true) :
    ∃ pre x post, q.events = pre ++ x :: post ∧ x.topic = e.topic ∧
      (∀ y ∈ pre, y.topic ≠ e.topic) ∧ (q.push e).1.events = pre ++ post ++ [e] := by
  have hle : q.limit ≤ q.countOn e.topic := by simpa [push_eq] using h
  obtain ⟨x, hx, hxt⟩ : ∃ x ∈ q.events, (x.topic == e.topic) = true :=
    List.countP_pos_iff.mp (Nat.lt_of_lt_of_le hpos hle)
  obtain ⟨x, pre, post, hpre, hx, hsplit, herase⟩ := List.exists_of_eraseP (p := (·.topic == e.topic)) hx hxt
  refine ⟨pre, x, post, hsplit, by simpa using hx, fun y hy => by simpa using hpre y hy, ?_⟩
  rw [push_eq, if_pos hle]
  simp [herase]

end EventQueue

/-! ## The record of a run -/

/-- An event a run pushed; `taken` once the worker has taken it or a clear discarded it. -/
structure Pushed where
  event : TelemetryEvent
  taken : Bool := false

namespace Pushed

/-- Whether a recorded push is on a topic. -/
def onTopic (t : String) (x : Pushed) : Bool := x.event.topic == t

/-- The pushes that are among the newest `n` of their topic, in push order. -/
def window (n : Nat) : List Pushed → List Pushed
  | [] => []
  | x :: later =>
    if later.countP (onTopic x.event.topic) < n then x :: window n later else window n later

/-- What a record shows as queued: the events of the window not yet taken or discarded,
oldest first. -/
def visible (n : Nat) (L : List Pushed) : List TelemetryEvent :=
  ((window n L).filter (!·.taken)).map (·.event)

/-- Marks the oldest push shown as taken. -/
def takeFront (n : Nat) : List Pushed → List Pushed
  | [] => []
  | x :: later =>
    if !x.taken && later.countP (onTopic x.event.topic) < n then { x with taken := true } :: later
    else x :: takeFront n later

/-- Marks every push as discarded. -/
def discardAll (L : List Pushed) : List Pushed := L.map fun x => { x with taken := true }

/-- Of two pushes on one topic, the earlier is taken first: while it is shown, so is the
later one. -/
def TakenBefore (x y : Pushed) : Prop := x.event.topic = y.event.topic → x.taken = false → y.taken = false

/-- Within the window, the pushes of a topic are taken oldest first. -/
def TakenFirst (n : Nat) (L : List Pushed) : Prop := (window n L).Pairwise TakenBefore

variable {n : Nat}

theorem window_cons (x : Pushed) (later : List Pushed) :
    window n (x :: later) =
      if later.countP (onTopic x.event.topic) < n then x :: window n later else window n later :=
  rfl

/-- Appending a push shifts the window of its topic by one: once the topic has `n` pushes,
the oldest of them in the window leaves it. -/
theorem window_append_single (hn : 0 < n) (L : List Pushed) (y : Pushed) :
    window n (L ++ [y]) =
      (if n ≤ L.countP (onTopic y.event.topic) then
        (window n L).eraseP (onTopic y.event.topic) else window n L) ++ [y] := by
  induction L with
  | nil => simp [window, hn]
  | cons x later ih =>
    rw [List.cons_append, window_cons, ih, window_cons]
    by_cases hxy : x.event.topic = y.event.topic
    · -- the new push is on the topic of `x`: its count there grows by one
      have hself : onTopic y.event.topic x = true := by simp [onTopic, hxy]
      have hc : (later ++ [y]).countP (onTopic x.event.topic) =
          later.countP (onTopic y.event.topic) + 1 := by simp [onTopic, hxy]
      have hcx : (x :: later).countP (onTopic y.event.topic) =
          later.countP (onTopic y.event.topic) + 1 := by simp [hself]
      rw [hc, hcx, hxy]
      by_cases h1 : later.countP (onTopic y.event.topic) + 1 < n
      · -- `x` stays in the window
        rw [if_pos h1, if_neg (show ¬n ≤ later.countP (onTopic y.event.topic) by omega),
          if_neg (show ¬n ≤ later.countP (onTopic y.event.topic) + 1 by omega),
          if_pos (show later.countP (onTopic y.event.topic) < n by omega)]
        rfl
      · rw [if_neg h1, if_pos (show n ≤ later.countP (onTopic y.event.topic) + 1 by omega)]
        by_cases h2 : later.countP (onTopic y.event.topic) < n
        · -- `x` was the oldest push of the window on its topic, and leaves it
          rw [if_neg (show ¬n ≤ later.countP (onTopic y.event.topic) by omega), if_pos h2,
            List.eraseP_cons_of_pos hself]
        · rw [if_pos (show n ≤ later.countP (onTopic y.event.topic) by omega), if_neg h2]
    · -- a push on another topic leaves the place of `x` alone
      have hother : onTopic y.event.topic x = false := by simp [onTopic, hxy]
      have hc : (later ++ [y]).countP (onTopic x.event.topic) =
          later.countP (onTopic x.event.topic) := by simp [onTopic, Ne.symm hxy]
      have hcx : (x :: later).countP (onTopic y.event.topic) =
          later.countP (onTopic y.event.topic) := by simp [hother]
      rw [hc, hcx]
      by_cases hx : later.countP (onTopic x.event.topic) < n
      · rw [if_pos hx, if_pos hx]
        split
        · rw [List.eraseP_cons_of_neg (by simp [hother])]
          rfl
        · rfl
      · rw [if_neg hx, if_neg hx]

theorem rtake_cons (x : Pushed) (l : List Pushed) :
    (x :: l).rtake n = if l.length < n then x :: l.rtake n else l.rtake n := by
  simp only [List.rtake, List.length_cons]
  split
  · rw [Nat.sub_eq_zero_of_le (by omega), Nat.sub_eq_zero_of_le (by omega)]
    rfl
  · rw [show l.length + 1 - n = l.length - n + 1 by omega]
    rfl

/-- The window of a topic is its newest `n` pushes. -/
theorem window_filter_onTopic (t : String) (L : List Pushed) :
    (window n L).filter (onTopic t) = (L.filter (onTopic t)).rtake n := by
  induction L with
  | nil => simp [window]
  | cons x later ih =>
    rw [window_cons]
    by_cases hx : x.event.topic = t
    · have hxt : onTopic t x = true := by simp [onTopic, hx]
      rw [hx, List.filter_cons_of_pos hxt, rtake_cons, ← List.countP_eq_length_filter]
      split
      · rw [List.filter_cons_of_pos hxt, ih]
      · exact ih
    · have hxt : onTopic t x = false := by simp [onTopic, hx]
      rw [List.filter_cons_of_neg (by simp [hxt])]
      split
      · rw [List.filter_cons_of_neg (by simp [hxt]), ih]
      · exact ih

/-- The window holds the newest `n` pushes of a topic, or all of them if there are fewer. -/
theorem countP_window (t : String) (L : List Pushed) :
    (window n L).countP (onTopic t) = min (L.countP (onTopic t)) n := by
  rw [List.countP_eq_length_filter, window_filter_onTopic, List.rtake, List.length_drop,
    List.countP_eq_length_filter]
  omega

/-- A push about to leave the window takes the oldest event shown on its topic with it, if it
was still shown. -/
theorem visible_eraseP {W : List Pushed} (t : String) (hw : W.Pairwise TakenBefore) :
    ((W.eraseP (onTopic t)).filter (!·.taken)).map (·.event) =
      if (W.filter (!·.taken)).countP (onTopic t) = W.countP (onTopic t) then
        ((W.filter (!·.taken)).map (·.event)).eraseP (·.topic == t)
      else (W.filter (!·.taken)).map (·.event) := by
  induction W with
  | nil => simp
  | cons x rest ih =>
    obtain ⟨hx, hrest⟩ := List.pairwise_cons.mp hw
    have hcount : (rest.filter (!·.taken)).countP (onTopic t) ≤ rest.countP (onTopic t) :=
      (List.filter_sublist).countP_le
    by_cases hxt : x.event.topic = t
    · have hon : onTopic t x = true := by simp [onTopic, hxt]
      rw [List.eraseP_cons_of_pos hon]
      cases htaken : x.taken
      · -- `x` is shown, so is every later push of its topic: the whole topic is shown
        have hall : (rest.filter (!·.taken)).countP (onTopic t) = rest.countP (onTopic t) := by
          rw [List.countP_filter]
          apply List.countP_congr
          intro y hy
          have := hx y hy
          simp only [onTopic, beq_iff_eq, Bool.and_eq_true, Bool.not_eq_eq_eq_not,
            Bool.not_true] at this ⊢
          constructor
          · exact fun h => h.1
          · exact fun h => ⟨h, this (hxt.trans h.symm) htaken⟩
        rw [List.filter_cons_of_pos (by simp [htaken]), List.countP_cons, List.countP_cons,
          if_pos hon, hall, if_pos rfl, List.map_cons, List.eraseP_cons_of_pos (by simpa using hxt)]
      · rw [List.filter_cons_of_neg (by simp [htaken]), List.countP_cons, if_pos hon,
          if_neg (by omega)]
    · have hon : onTopic t x = false := by simp [onTopic, hxt]
      have hcx : (x :: rest).countP (onTopic t) = rest.countP (onTopic t) := by simp [hon]
      rw [List.eraseP_cons_of_neg (by simp [hon]), hcx]
      cases htaken : x.taken
      · rw [List.filter_cons_of_pos (by simp [htaken]), List.filter_cons_of_pos (by simp [htaken]),
          List.countP_cons, if_neg (show ¬onTopic t x = true by simp [hon]), Nat.add_zero,
          List.map_cons, List.map_cons, ih hrest]
        split
        · rw [List.eraseP_cons_of_neg (by simpa using hxt)]
        · rfl
      · rw [List.filter_cons_of_neg (by simp [htaken]), List.filter_cons_of_neg (by simp [htaken]),
          ih hrest]

/-- Taking the front marks pushes only. -/
theorem takeFront_events (L : List Pushed) : (takeFront n L).map (·.event) = L.map (·.event) := by
  induction L with
  | nil => rfl
  | cons x later ih =>
    unfold takeFront
    split
    · rfl
    · rw [List.map_cons, List.map_cons, ih]

theorem countP_onTopic_eq {L L' : List Pushed} (h : L'.map (·.event) = L.map (·.event))
    (t : String) : L'.countP (onTopic t) = L.countP (onTopic t) := by
  have hL : ∀ M : List Pushed, M.countP (onTopic t) = (M.map (·.event)).countP (·.topic == t) := by
    intro M
    rw [List.countP_map]
    rfl
  rw [hL, h, ← hL]

/-- The worker takes the oldest event shown. -/
theorem visible_takeFront (L : List Pushed) : visible n (takeFront n L) = (visible n L).tail := by
  induction L with
  | nil => rfl
  | cons x later ih =>
    have hc := countP_onTopic_eq (takeFront_events (n := n) later) x.event.topic
    unfold takeFront
    by_cases hfront : (!x.taken && later.countP (onTopic x.event.topic) < n) = true
    · rw [if_pos hfront]
      simp only [Bool.and_eq_true, Bool.not_eq_eq_eq_not, Bool.not_true,
        decide_eq_true_eq] at hfront
      simp [visible, window_cons, hfront.2, hfront.1]
    · rw [if_neg hfront]
      simp only [Bool.and_eq_true, Bool.not_eq_eq_eq_not, Bool.not_true, decide_eq_true_eq,
        not_and] at hfront
      unfold visible at ih ⊢
      rw [window_cons, window_cons, hc]
      split
      · have htaken : x.taken = true := by
          cases h : x.taken
          · exact absurd ‹_› (hfront h)
          · rfl
        rw [List.filter_cons_of_neg (by simp [htaken]), List.filter_cons_of_neg (by simp [htaken])]
        exact ih
      · exact ih

theorem window_map_taken (f : Pushed → Pushed) (hf : ∀ x, (f x).event = x.event) (L : List Pushed) :
    window n (L.map f) = (window n L).map f := by
  induction L with
  | nil => rfl
  | cons x later ih =>
    have hc : (later.map f).countP (onTopic (f x).event.topic) =
        later.countP (onTopic x.event.topic) := by
      rw [List.countP_map, hf]
      congr 1
      funext y
      simp [onTopic, hf]
    rw [List.map_cons, window_cons, hc, ih, window_cons]
    split <;> rfl

/-- After a clear nothing is shown. -/
theorem visible_discardAll (L : List Pushed) : visible n (discardAll L) = [] := by
  rw [visible, discardAll, window_map_taken (fun x => { x with taken := true }) (fun _ => rfl)]
  simp

/-! ### What every record of a run satisfies -/

theorem takenFirst_nil : TakenFirst n [] := List.Pairwise.nil

theorem TakenFirst.append (hn : 0 < n) {L : List Pushed} (h : TakenFirst n L)
    (e : TelemetryEvent) : TakenFirst n (L ++ [{ event := e }]) := by
  unfold TakenFirst at h ⊢
  rw [window_append_single hn, List.pairwise_append]
  refine ⟨?_, List.pairwise_singleton _ _, fun _ _ y hy _ _ => ?_⟩
  · split
    · exact h.eraseP _
    · exact h
  · rw [List.mem_singleton.mp hy]

theorem TakenFirst.takeFront {L : List Pushed} (h : TakenFirst n L) : TakenFirst n (takeFront n L) := by
  induction L with
  | nil => exact h
  | cons x later ih =>
    unfold TakenFirst at h ih ⊢
    have hc := countP_onTopic_eq (takeFront_events (n := n) later) x.event.topic
    have hlater : (window n later).Pairwise TakenBefore := by
      rw [window_cons] at h
      split at h
      · exact (List.pairwise_cons.mp h).2
      · exact h
    unfold Pushed.takeFront
    split
    · -- `x` is taken: it precedes nothing as a shown push
      rw [window_cons]
      split
      · exact List.Pairwise.cons (fun _ _ _ hx => by simp at hx) hlater
      · exact hlater
    · rw [window_cons, hc]
      rw [window_cons] at h
      split
      · rename_i hfront hin
        have htaken : x.taken = true := by
          cases hx : x.taken
          · simp [hx, hin] at hfront
          · rfl
        exact List.Pairwise.cons (fun _ _ _ hx => by simp [htaken] at hx) (ih hlater)
      · exact ih hlater

theorem TakenFirst.discardAll (L : List Pushed) : TakenFirst n (discardAll L) := by
  unfold TakenFirst Pushed.discardAll
  rw [window_map_taken (fun x => { x with taken := true }) (fun _ => rfl), List.pairwise_map]
  exact List.pairwise_of_forall fun _ _ _ hx => by simp at hx

/-- What a record shows of a topic: its newest `n` pushes that are neither taken nor
discarded, in push order. -/
theorem visible_filter_topic (t : String) (L : List Pushed) :
    (visible n L).filter (·.topic == t) =
      (((L.filter (onTopic t)).rtake n).filter (!·.taken)).map (·.event) := by
  rw [visible, List.filter_map, ← window_filter_onTopic, List.filter_filter, List.filter_filter]
  congr 2
  funext x
  simp only [Function.comp_apply, onTopic, Bool.and_comm]

end Pushed

/-! ## Operations on an inbox, and what the record says of them -/

/-- An operation on the inbox of a subscription. -/
inductive InboxOp where
  /-- Queues an event. -/
  | push (e : TelemetryEvent)
  /-- The worker asks for its next event. -/
  | next
  /-- Discards everything queued. -/
  | clear
  /-- Ends the subscription. -/
  | close

/-- What an operation on an inbox answers. -/
inductive InboxAnswer where
  /-- A push, and whether it evicted a queued event. -/
  | pushed (evicted : Bool)
  /-- What the worker got. -/
  | delivered (d : Delivery)
  /-- A clear or a close. -/
  | done

/-- One operation on an inbox. -/
def Inbox.perform (m : Inbox) : InboxOp → InboxAnswer × Inbox
  | .push e => (.pushed (m.push e).2, (m.push e).1)
  | .next => (.delivered m.next.1, m.next.2)
  | .clear => (.done, m.clear)
  | .close => (.done, m.close)

/-- Runs operations on an inbox: every answer, and the inbox after. -/
def Inbox.runOps (m : Inbox) (ops : List InboxOp) : List InboxAnswer × Inbox :=
  foldAnswers Inbox.perform m ops

/-- The record of a run on an inbox: every push with its mark, and whether the subscription
has ended. -/
structure InboxSpec where
  pushes : List Pushed := []
  closed : Bool := false

namespace InboxSpec

/-- One operation, answered by the record of an inbox that shows the newest `n` events of
each topic: a push evicts when its topic already shows `n` events; the worker gets the
oldest event shown, nothing while none is, and a stop once the subscription has ended. -/
def perform (n : Nat) (s : InboxSpec) : InboxOp → InboxAnswer × InboxSpec
  | .push e =>
    (.pushed (decide ((Pushed.visible n s.pushes).countP (·.topic == e.topic) = n)),
      { s with pushes := s.pushes ++ [{ event := e }] })
  | .next =>
    if s.closed then (.delivered .stop, s)
    else match Pushed.visible n s.pushes with
      | [] => (.delivered .idle, s)
      | e :: _ => (.delivered (.event e), { s with pushes := Pushed.takeFront n s.pushes })
  | .clear => (.done, { s with pushes := Pushed.discardAll s.pushes })
  | .close => (.done, { s with closed := true })

/-- Runs operations on a record: every answer, and the record after. -/
def runOps (n : Nat) (s : InboxSpec) (ops : List InboxOp) : List InboxAnswer × InboxSpec :=
  foldAnswers (perform n) s ops

end InboxSpec

/-! ## The refinement -/

/-- The inbox `m`, keeping `n` events of a topic, shows what the record `s` says. -/
structure InboxRefines (n : Nat) (m : Inbox) (s : InboxSpec) : Prop where
  limit_eq : m.queue.limit = n
  limit_pos : 0 < n
  closed_eq : m.closed = s.closed
  events_eq : m.queue.events = Pushed.visible n s.pushes
  takenFirst : Pushed.TakenFirst n s.pushes

theorem refines_new (N : Nat) : InboxRefines (max N 1) (Inbox.new N) {} :=
  ⟨rfl, by omega, rfl, rfl, Pushed.takenFirst_nil⟩

namespace InboxRefines

variable {n : Nat} {m : Inbox} {s : InboxSpec}

/-- The events shown on a topic are at most the pushes of the window on it. -/
theorem countOn_le_window (h : InboxRefines n m s) (t : String) :
    m.queue.countOn t ≤ (Pushed.window n s.pushes).countP (Pushed.onTopic t) := by
  rw [EventQueue.countOn, h.events_eq, Pushed.visible, List.countP_map]
  exact (List.filter_sublist).countP_le

/-- An inbox never holds more than `n` events of a topic. -/
theorem countOn_le (h : InboxRefines n m s) (t : String) : m.queue.countOn t ≤ n := by
  have := h.countOn_le_window t
  rw [Pushed.countP_window] at this
  omega

/-- A push is answered alike and keeps the refinement. -/
theorem push (h : InboxRefines n m s) (e : TelemetryEvent) :
    (m.push e).2 = decide ((Pushed.visible n s.pushes).countP (·.topic == e.topic) = n) ∧
      InboxRefines n (m.push e).1 { s with pushes := s.pushes ++ [{ event := e }] } := by
  have hbound := h.countOn_le e.topic
  have hwin := h.countOn_le_window e.topic
  have hshown : m.queue.countOn e.topic =
      ((Pushed.window n s.pushes).filter (!·.taken)).countP (Pushed.onTopic e.topic) := by
    rw [EventQueue.countOn, h.events_eq, Pushed.visible, List.countP_map]
    rfl
  have hflag : (m.push e).2 = decide (n ≤ m.queue.countOn e.topic) := by
    simp [Inbox.push, EventQueue.push_eq, h.limit_eq]
  have hevents : (m.push e).1.queue.events =
      (if n ≤ m.queue.countOn e.topic then m.queue.events.eraseP (·.topic == e.topic)
        else m.queue.events) ++ [e] := by
    simp [Inbox.push, EventQueue.push_eq, h.limit_eq]
  refine ⟨?_, ⟨by simp [Inbox.push, EventQueue.push_eq, h.limit_eq], h.limit_pos,
    h.closed_eq, ?_, h.takenFirst.append h.limit_pos e⟩⟩
  · rw [hflag, ← h.events_eq]
    simp only [EventQueue.countOn] at hbound ⊢
    exact decide_eq_decide.mpr ⟨fun hle => by omega, fun heq => by omega⟩
  · rw [hevents, Pushed.visible, Pushed.window_append_single h.limit_pos, List.filter_append,
      List.map_append]
    simp only [List.filter_singleton, Bool.not_false, cond_true, List.map_cons, List.map_nil]
    congr 1
    rw [Pushed.countP_window] at hwin
    by_cases hfull : n ≤ s.pushes.countP (Pushed.onTopic e.topic)
    · -- the topic has `n` pushes: the window drops its oldest, shown or not
      rw [if_pos hfull, Pushed.visible_eraseP e.topic h.takenFirst, Pushed.countP_window,
        Nat.min_eq_right hfull, ← hshown, ← Pushed.visible, ← h.events_eq]
      by_cases hn : n ≤ m.queue.countOn e.topic
      · rw [if_pos hn, if_pos (show m.queue.countOn e.topic = n by omega)]
      · rw [if_neg hn, if_neg (show m.queue.countOn e.topic ≠ n by omega)]
    · rw [if_neg hfull, ← Pushed.visible, ← h.events_eq,
        if_neg (show ¬n ≤ m.queue.countOn e.topic by omega)]

/-- The worker's request is answered alike and keeps the refinement. -/
theorem next (h : InboxRefines n m s) :
    InboxAnswer.delivered m.next.1 = (InboxSpec.perform n s .next).1 ∧
      InboxRefines n m.next.2 (InboxSpec.perform n s .next).2 := by
  by_cases hc : s.closed = true
  · have hnext : m.next = (.stop, m) := by simp [Inbox.next, h.closed_eq, hc]
    rw [hnext]
    simp only [InboxSpec.perform, hc, if_true]
    exact ⟨trivial, h⟩
  · have hm : m.closed = false := by simpa [h.closed_eq] using hc
    cases hv : Pushed.visible n s.pushes with
    | nil =>
      have hnext : m.next = (.idle, m) := by
        simp [Inbox.next, hm, EventQueue.pop?, h.events_eq, hv]
      rw [hnext]
      simp only [InboxSpec.perform, hc, Bool.false_eq_true, if_false, hv]
      exact ⟨trivial, h⟩
    | cons e rest =>
      have hnext : m.next = (.event e, { m with queue := { m.queue with events := rest } }) := by
        simp [Inbox.next, hm, EventQueue.pop?, h.events_eq, hv]
      rw [hnext]
      simp only [InboxSpec.perform, hc, Bool.false_eq_true, if_false, hv]
      refine ⟨trivial, ⟨h.limit_eq, h.limit_pos, by simpa using hm, ?_, h.takenFirst.takeFront⟩⟩
      rw [Pushed.visible_takeFront, hv]
      rfl

/-- One operation is answered alike and keeps the refinement. -/
theorem perform (h : InboxRefines n m s) (op : InboxOp) :
    (m.perform op).1 = (InboxSpec.perform n s op).1 ∧
      InboxRefines n (m.perform op).2 (InboxSpec.perform n s op).2 := by
  cases op with
  | push e =>
    obtain ⟨hans, hst⟩ := h.push e
    exact ⟨by simp [Inbox.perform, InboxSpec.perform, hans], hst⟩
  | next => exact h.next
  | clear =>
    refine ⟨rfl, ⟨h.limit_eq, h.limit_pos, h.closed_eq, ?_, Pushed.TakenFirst.discardAll _⟩⟩
    simp [Inbox.perform, Inbox.clear, InboxSpec.perform, Pushed.visible_discardAll]
  | close => exact ⟨rfl, ⟨h.limit_eq, h.limit_pos, by simp [Inbox.perform, Inbox.close,
      InboxSpec.perform], h.events_eq, h.takenFirst⟩⟩

/-- Along any run the answers agree and the refinement is kept. -/
theorem runOps (h : InboxRefines n m s) (ops : List InboxOp) :
    (m.runOps ops).1 = (InboxSpec.runOps n s ops).1 ∧
      InboxRefines n (m.runOps ops).2 (InboxSpec.runOps n s ops).2 := by
  induction ops generalizing m s with
  | nil => exact ⟨rfl, h⟩
  | cons op ops ih =>
    obtain ⟨hans, hst⟩ := h.perform op
    obtain ⟨hans', hst'⟩ := ih hst
    simp only [Inbox.runOps, InboxSpec.runOps, foldAnswers] at hans' hst' ⊢
    exact ⟨by rw [hans, hans'], hst'⟩

end InboxRefines

/-! ## Closing, and a new subscriber's queue -/

@[simp] theorem Inbox.next_closed (m : Inbox) : m.next.2.closed = m.closed := by
  unfold Inbox.next
  split
  · rfl
  · split <;> rfl

theorem Inbox.runOps_closed {m : Inbox} (hm : m.closed = true) (ops : List InboxOp) :
    (m.runOps ops).2.closed = true := by
  induction ops generalizing m with
  | nil => exact hm
  | cons op ops ih =>
    apply ih
    cases op with
    | push e => exact hm
    | next => simpa [Inbox.perform] using hm
    | clear => exact hm
    | close => rfl

/-- Once its subscription has ended, an inbox only ever tells its worker to stop. -/
theorem Inbox.next_after_close (m : Inbox) (ops : List InboxOp) :
    ((m.close.runOps ops).2.next).1 = .stop := by
  simp [Inbox.next, Inbox.runOps_closed (m := m.close) rfl ops]

namespace EventQueue

/-- The queue after pushing each of a list of events. -/
def pushAll (q : EventQueue) (es : List TelemetryEvent) : EventQueue :=
  es.foldl (fun q e => (q.push e).1) q

/-- Pushing events of distinct topics, none of them queued yet, evicts nothing: every
push finds its topic empty, and the events queue up in order. -/
theorem pushAll_distinct {q : EventQueue} (hpos : 0 < q.limit) {es : List TelemetryEvent}
    (hnd : (es.map (·.topic)).Nodup) (hnone : ∀ e ∈ es, q.countOn e.topic = 0) :
    (q.pushAll es).events = q.events ++ es ∧ (q.pushAll es).limit = q.limit := by
  induction es generalizing q with
  | nil => simp [pushAll]
  | cons e rest ih =>
    obtain ⟨he, hrest⟩ := List.nodup_cons.mp hnd
    have hpush : q.push e = ({ q with events := q.events ++ [e] }, false) := by
      rw [push_eq, if_neg (by rw [hnone e (by simp)]; omega)]
      simp [hnone e (by simp), Nat.pos_iff_ne_zero.mp hpos]
    have hnone' : ∀ e' ∈ rest,
        ({ q with events := q.events ++ [e] } : EventQueue).countOn e'.topic = 0 := by
      intro e' he'
      have hne : e.topic ≠ e'.topic := fun h => he (by show e.topic ∈ _; rw [h]; exact List.mem_map_of_mem he')
      have h0 := hnone e' (List.mem_cons_of_mem e he')
      simp only [countOn] at h0 ⊢
      rw [List.countP_append, h0]
      simp [hne]
    obtain ⟨hev, hlim⟩ := ih (q := { q with events := q.events ++ [e] }) hpos hrest hnone'
    simp only [pushAll, List.foldl_cons, hpush] at hev hlim ⊢
    exact ⟨by rw [hev, List.append_assoc, List.singleton_append], hlim⟩

end EventQueue

namespace Fanout

/-- A new subscriber's queue is filled with the cached value of every matching topic, one
per topic: no push of that replay evicts anything, and every cached value stays queued. -/
theorem replay_evicts_nothing {f : Fanout} (hf : f.Sound) (p : TopicPattern)
    (o : Option PluginId) (now : Instant) :
    let es := (f.cache.matching p now).map (·.event)
    (∀ pre e post, es = pre ++ e :: post →
      (((EventQueue.empty f.perTopic).pushAll pre).push e).2 = false) ∧
    ((f.subscribe p o now).2.subscribers.getLast?).map (·.queue.events) = some es := by
  intro es
  have hes : es = f.cache.entries.filter (p.matchesTopic ·.topic) := by
    simp [es, LastValueCache.matching, Function.comp_def, LastValueCache.describe]
  have hnd : (es.map (·.topic)).Nodup := by
    rw [hes]
    exact List.Pairwise.map _ (fun _ _ => ne_of_lt) (hf.sorted.sublist List.filter_sublist)
  have hpos : 0 < (EventQueue.empty f.perTopic).limit := by simp [EventQueue.empty]
  have hempty : ∀ e ∈ es, (EventQueue.empty f.perTopic).countOn e.topic = 0 := by
    intro e _
    rfl
  refine ⟨fun pre e post hsplit => ?_, ?_⟩
  · have hndpre : (pre.map (·.topic)).Nodup := by
      rw [hsplit, List.map_append] at hnd
      exact hnd.of_append_left
    obtain ⟨hev, hlim⟩ := EventQueue.pushAll_distinct hpos hndpre
      (fun e he => hempty e (by rw [hsplit]; simp [he]))
    have hnot : e.topic ∉ pre.map (·.topic) := by
      rw [hsplit, List.map_append, List.map_cons] at hnd
      exact fun h => (List.nodup_append.mp hnd).2.2 _ h _ (List.mem_cons_self) rfl
    have hzero : ((EventQueue.empty f.perTopic).pushAll pre).countOn e.topic = 0 := by
      rw [EventQueue.countOn, hev, List.countP_eq_zero]
      intro x hx hxt
      apply hnot
      have hx' : x ∈ pre := by simpa [EventQueue.empty] using hx
      rw [← beq_iff_eq.mp hxt]
      exact List.mem_map_of_mem hx'
    rw [EventQueue.push_eq, hlim, hzero]
    simp [EventQueue.empty]
  · obtain ⟨hev, -⟩ := EventQueue.pushAll_distinct hpos hnd hempty
    have hfold : (f.cache.matching p now).foldl (fun q v => (q.push v.event).1)
        (EventQueue.empty f.perTopic) = (EventQueue.empty f.perTopic).pushAll es := by
      simp [EventQueue.pushAll, es, List.foldl_map]
    simp only [subscribe, List.getLast?_append, List.getLast?_singleton, Option.some_or,
      Option.map_some]
    rw [hfold, hev]
    rfl

end Fanout

/-! ## The main statement -/

/-- A subscriber's inbox made to keep `N` events of a topic keeps, after any run, the newest
`max N 1` events of each topic that its worker has not taken and no clear has discarded, in
push order: every operation answers as that record says; no topic ever holds more; a push
evicts exactly when its topic is full, and then only the oldest event of the topic, keeping
the others in order; the worker gets the oldest event shown; once the subscription has
ended it only stops; and the cached values a new subscriber starts with all stay queued. -/
theorem inbox_keeps_newest_per_topic (N : Nat) (ops : List InboxOp) :
    let n := max N 1
    let run := (Inbox.new N).runOps ops
    let spec := InboxSpec.runOps n {} ops
    run.1 = spec.1 ∧
      run.2.queue.events = Pushed.visible n spec.2.pushes ∧
      (∀ t, run.2.queue.events.filter (·.topic == t) =
        (((spec.2.pushes.filter (Pushed.onTopic t)).rtake n).filter (!·.taken)).map (·.event)) ∧
      (∀ t, run.2.queue.countOn t ≤ n) ∧
      (∀ e, (run.2.push e).2 = true ↔ run.2.queue.countOn e.topic = n) ∧
      (∀ e, (run.2.push e).2 = true → ∃ pre x post, run.2.queue.events = pre ++ x :: post ∧
        x.topic = e.topic ∧ (∀ y ∈ pre, y.topic ≠ e.topic) ∧
        (run.2.push e).1.queue.events = pre ++ post ++ [e]) ∧
      (∀ e, (run.2.push e).2 = false →
        (run.2.push e).1.queue.events = run.2.queue.events ++ [e]) ∧
      (∀ ops', ((run.2.close.runOps ops').2.next).1 = .stop) ∧
      ∀ f : Fanout, f.Sound → ∀ p o now,
        let es := (f.cache.matching p now).map (·.event)
        (∀ pre e post, es = pre ++ e :: post →
          (((EventQueue.empty f.perTopic).pushAll pre).push e).2 = false) ∧
        ((f.subscribe p o now).2.subscribers.getLast?).map (·.queue.events) = some es := by
  intro n run spec
  obtain ⟨hans, hr⟩ := (refines_new N).runOps ops
  refine ⟨hans, hr.events_eq, fun t => ?_, hr.countOn_le, fun e => ?_, fun e he => ?_,
    fun e he => ?_, fun ops' => Inbox.next_after_close _ ops', fun f hf p o now =>
      Fanout.replay_evicts_nothing hf p o now⟩
  · rw [hr.events_eq, Pushed.visible_filter_topic]
  · have hb : run.2.queue.countOn e.topic ≤ max N 1 := hr.countOn_le e.topic
    have hflag : (run.2.push e).2 = decide (run.2.queue.limit ≤ run.2.queue.countOn e.topic) := by
      simp [Inbox.push, EventQueue.push_eq]
    rw [hflag, hr.limit_eq, decide_eq_true_iff]
    omega
  · obtain ⟨pre, x, post, hsplit, hx, hpre, hpush⟩ :=
      EventQueue.push_evicts_oldest (hr.limit_eq ▸ hr.limit_pos) he
    exact ⟨pre, x, post, hsplit, hx, hpre, hpush⟩
  · have hlt : ¬run.2.queue.limit ≤ run.2.queue.countOn e.topic := by
      simpa [Inbox.push, EventQueue.push_eq] using he
    simp [Inbox.push, EventQueue.push_eq, hlt]

end Tether
