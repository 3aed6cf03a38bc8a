import Mathlib.Data.List.TakeWhile
import Tether.Proofs.BusRun
/-!
# Proofs.BusDelivery — what every subscriber receives

A subscriber's queue is filled from two sources: at its subscription, with the cached value
of every topic its pattern matches; afterwards, with every event the cache accepts as fresh
on such a topic, until it is removed.  A reset empties every queue and the cache.  So what
reaches a subscriber on a topic since the later of its subscription and the last reset is
determined by the cache alone:

* `pushedTo_subscribe`: from its subscription on, the cached value of the topic, then every
  fresh event of the topic until it is removed — or nothing, if its pattern does not match;
* `pushedTo_eq`: from any later point on, every fresh event of the topic until it is
  removed, or nothing.

Along a run without resets the cache keeps the last fresh event of every topic
(`findTopic_run`), and the sequence numbers of a topic strictly increase from the cached
value through every fresh event (`seq_increasing`).  Hence no subscriber receives a
sequence number of a topic twice within an epoch, and a subscriber that joins later
receives a suffix of what an earlier one receives (`pushedTo_suffix`): it starts with the
cached value, which is the last event the earlier one got, and from then on both get the
same events.

The main statement is `fanout_contract`, over every run of a new bus.
-/

namespace Tether

set_option autoImplicit false

/-! ## The last element of a list -/

section Last

variable {α : Type}

theorem getLast?_toList_append (l m : List α) :
    (l.getLast?.toList ++ m).getLast? = (l ++ m).getLast? := by
  simp

theorem getLast?_toList_suffix (l : List α) : l.getLast?.toList <:+ l := by
  cases h : l.getLast? with
  | none => exact List.nil_suffix
  | some a =>
      obtain ⟨ys, rfl⟩ := List.getLast?_eq_some_iff.mp h
      exact List.suffix_append ys [a]

/-- A list whose every element relates to its last one, followed by a list that the last one
leads, is in order as a whole. -/
theorem pairwise_append_of_getLast? {R : α → α → Prop}
    (htrans : ∀ a b c, R a b → R b c → R a c) {l m : List α} (hl : l.Pairwise R)
    (h : (l.getLast?.toList ++ m).Pairwise R) : (l ++ m).Pairwise R := by
  rw [List.pairwise_append] at h ⊢
  refine ⟨hl, h.2.1, ?_⟩
  intro x hx y hy
  cases hz : l.getLast? with
  | none =>
      rw [List.getLast?_eq_none_iff] at hz
      subst hz
      cases hx
  | some z =>
      have hzy : R z y := h.2.2 z (by simp [hz]) y hy
      obtain ⟨ys, rfl⟩ := List.getLast?_eq_some_iff.mp hz
      rcases List.mem_append.mp hx with hx | hx
      · exact htrans x z y ((List.pairwise_append.mp hl).2.2 x hx z List.mem_cons_self) hzy
      · rw [List.mem_singleton.mp hx]
        exact hzy

end Last

namespace Fanout

variable {f : Fanout}

/-! ## The cache along a run -/

/-- Along a run without resets the cached value of a topic is the last of the value at the
start and the fresh events of the topic. -/
theorem findTopic_run (f : Fanout) (ops : List BusOp) (hr : ∀ op ∈ ops, op.isReset = false)
    (t : String) :
    findTopic (f.run ops).cache.entries t =
      ((findTopic f.cache.entries t).toList ++ onTopic t (f.freshLog ops)).getLast? := by
  induction ops generalizing f with
  | nil => simp
  | cons op ops ih =>
      have hop : op.isReset = false := hr op List.mem_cons_self
      have hrest : ∀ op' ∈ ops, op'.isReset = false :=
        fun op' h => hr op' (List.mem_cons_of_mem op h)
      rw [run_cons, ih (f.apply op) hrest, findTopic_apply f op hop, freshLog_cons,
        onTopic_append, getLast?_toList_append, List.append_assoc]

/-- Along a run without resets the sequence numbers of a topic strictly increase, from the
cached value at the start through every fresh event. -/
theorem seq_increasing (f : Fanout) (ops : List BusOp) (hr : ∀ op ∈ ops, op.isReset = false)
    (t : String) :
    ((findTopic f.cache.entries t).toList ++ onTopic t (f.freshLog ops)).Pairwise
      (·.seq < ·.seq) := by
  induction ops generalizing f with
  | nil => cases findTopic f.cache.entries t <;> simp
  | cons op ops ih =>
      have hop : op.isReset = false := hr op List.mem_cons_self
      have hrest : ∀ op' ∈ ops, op'.isReset = false :=
        fun op' h => hr op' (List.mem_cons_of_mem op h)
      -- the cached value and the event this operation accepts are in order
      have hstep : ((findTopic f.cache.entries t).toList ++ onTopic t (f.accepted op)).Pairwise
          (·.seq < ·.seq) := by
        rw [List.pairwise_append]
        refine ⟨?_, ?_, seq_lt_accepted f op t⟩
        · cases findTopic f.cache.entries t <;> simp
        · rcases accepted_eq f op with h | ⟨e, h⟩ <;> rw [h]
          · simp [onTopic]
          · by_cases ht : e.topic = t <;> simp [onTopic, ht]
      -- and the rest of the run continues from the last of them
      have hnext := ih (f.apply op) hrest
      rw [findTopic_apply f op hop] at hnext
      rw [freshLog_cons, onTopic_append, ← List.append_assoc]
      exact pairwise_append_of_getLast?
        (fun (a b c : TelemetryEvent) (hab : a.seq < b.seq) (hbc : b.seq < c.seq) =>
          Nat.lt_trans hab hbc) hstep hnext

/-! ## What a subscriber receives -/

/-- What a run queues for a subscriber already there: when its pattern matches the topic,
every fresh event of the topic until the subscriber is removed, and nothing otherwise. -/
theorem pushedTo_eq (hf : f.Sound) {s : Nat} (hs : s < f.nextId) (ops : List BusOp)
    (t : String) :
    f.pushedTo ops s t =
      if (f.patternOf? s).any (·.matchesTopic t) then
        onTopic t (f.freshLog (ops.takeWhile (!·.removes s)))
      else [] := by
  induction ops generalizing f with
  | nil => split <;> rfl
  | cons op ops ih =>
      have hs' : s < (f.apply op).nextId := Nat.lt_of_lt_of_le hs (nextId_le_apply f op)
      rw [pushedTo_cons, onTo_pushes hf hs t op, ih (hf.apply op) hs']
      by_cases hrem : op.removes s = true
      · -- the operation removes the subscriber: nothing reaches it from here on
        have hop : op = .unsubscribe s := by
          cases op <;> simp_all [BusOp.removes]
        subst hop
        simp [patternOf?_unsubscribe, BusOp.removes, accepted, onTopic]
      · have hkeep : op.removes s = false := by simpa using hrem
        rw [patternOf?_apply hs op hkeep, List.takeWhile_cons_of_pos (by simp [hkeep]),
          freshLog_cons, onTopic_append]
        split <;> simp

/-- What a run queues for a subscriber from its subscription on: when its pattern matches
the topic, the cached value of the topic, then every fresh event of the topic until it is
removed; nothing otherwise. -/
theorem pushedTo_subscribe (hf : f.Sound) (p : TopicPattern) (o : Option PluginId)
    (now : Instant) (ops : List BusOp) (t : String) :
    f.pushedTo (.subscribe p o now :: ops) f.nextId t =
      if p.matchesTopic t then
        (findTopic f.cache.entries t).toList ++
          onTopic t ((f.apply (.subscribe p o now)).freshLog (ops.takeWhile (!·.removes f.nextId)))
      else [] := by
  have hs : f.nextId < (f.apply (.subscribe p o now)).nextId := by simp [apply]
  rw [pushedTo_cons, onTo_pushes_subscribe hf, pushedTo_eq (hf.apply _) hs,
    patternOf?_subscribe hf]
  split <;> simp_all

/-- Of two subscribers matching a topic, the later receives a suffix of what the earlier
receives.  The earlier one is there at `W`, where it has received `L₀` so far, the last of
which is the cached value of the topic; the later one subscribes after `mid`. -/
theorem pushedTo_suffix {W : Fanout} (hW : W.Sound) {s₁ : Nat} (hs₁ : s₁ < W.nextId)
    {t : String} (hp₁ : (W.patternOf? s₁).any (·.matchesTopic t))
    {L₀ : List TelemetryEvent} (hL₀ : findTopic W.cache.entries t = L₀.getLast?)
    (mid post : List BusOp) (p₂ : TopicPattern) (o₂ : Option PluginId) (now₂ : Instant)
    (hp₂ : p₂.matchesTopic t) (hr : ∀ op ∈ mid ++ post, op.isReset = false)
    (hkeep₁ : ∀ op ∈ mid ++ post, op.removes s₁ = false)
    (hkeep₂ : ∀ op ∈ post, op.removes (W.run mid).nextId = false) :
    (W.run mid).pushedTo (.subscribe p₂ o₂ now₂ :: post) (W.run mid).nextId t <:+
      L₀ ++ W.pushedTo (mid ++ .subscribe p₂ o₂ now₂ :: post) s₁ t := by
  have hmid : ∀ op ∈ mid, op.isReset = false := fun op h => hr op (List.mem_append_left _ h)
  -- what the later subscriber receives
  have hlater : (W.run mid).pushedTo (.subscribe p₂ o₂ now₂ :: post) (W.run mid).nextId t =
      ((L₀ ++ onTopic t (W.freshLog mid)).getLast?).toList ++ onTopic t (((W.run mid).apply (.subscribe p₂ o₂ now₂)).freshLog post) := by
    rw [pushedTo_subscribe (hW.run mid), if_pos hp₂,
      List.takeWhile_eq_self_iff.mpr (fun op h => by simp [hkeep₂ op h]),
      findTopic_run W mid hmid, hL₀, getLast?_toList_append]
  -- what the earlier subscriber receives
  have hearlier : W.pushedTo (mid ++ .subscribe p₂ o₂ now₂ :: post) s₁ t =
      onTopic t (W.freshLog mid) ++ onTopic t (((W.run mid).apply (.subscribe p₂ o₂ now₂)).freshLog post) := by
    have hall : ∀ op ∈ mid ++ .subscribe p₂ o₂ now₂ :: post, (!op.removes s₁) = true := by
      intro op h
      rcases List.mem_append.mp h with h | h
      · simp [hkeep₁ op (List.mem_append_left _ h)]
      · rcases List.mem_cons.mp h with rfl | h
        · rfl
        · simp [hkeep₁ op (List.mem_append_right _ h)]
    rw [pushedTo_eq hW hs₁, if_pos hp₁, List.takeWhile_eq_self_iff.mpr hall, freshLog_append,
      freshLog_cons, onTopic_append, onTopic_append]
    simp [accepted, onTopic]
  rw [hlater, hearlier, ← List.append_assoc]
  exact List.suffix_append_self_iff.mpr (getLast?_toList_suffix _)

/-- An offer reaches every subscriber whose pattern matches its topic when the cache
accepts it, and nobody when the cache refuses it. -/
theorem pushes_deliver (f : Fanout) (epoch : Nat) (e : TelemetryEvent) :
    f.pushes (.deliver epoch e) =
      if f.cache.admission epoch e = .fresh then
        (f.subscribers.filter (·.pattern.matchesTopic e.topic)).map ((·.id, e))
      else [] := by
  by_cases h : f.cache.admission epoch e = .fresh
  · rw [if_pos h, pushes, (deliver_of_fresh f epoch e h).2.1, List.map_map]
    rfl
  · rw [if_neg h, pushes, (deliver_of_refused f epoch e h).2.1, List.map_nil]

end Fanout

open Fanout in
/-- **The fan-out contract.**  In every run of a new bus, what is queued for a subscriber on
a topic since the later of its subscription and the last reset is, when its pattern matches
the topic, the value the cache held for the topic at the subscription (if it subscribed after
the last reset) followed by every event of the topic accepted as fresh after that and before
the subscriber was removed, with strictly increasing sequence numbers; it is nothing when the
pattern does not match.  The cached value of a topic is the last fresh event of the topic
since the last reset; a reset empties the cache and every queue; an offer is queued for every
matching subscriber when the cache accepts it and for nobody when it refuses it; and of two
subscribers matching a topic, the later receives a suffix of what the earlier receives. -/
theorem fanout_contract (rules : List (TopicPattern × Span)) (perTopic : Nat) (t : String) :
    let init := Fanout.new { autostale := rules } perTopic
    -- a subscriber that joined after the last reset
    (∀ (pre post : List BusOp) (p : TopicPattern) (o : Option PluginId) (now : Instant),
      (∀ op ∈ post, op.isReset = false) →
      let f := init.run pre
      let got := f.pushedTo (.subscribe p o now :: post) f.nextId t
      got = (if p.matchesTopic t then
          (findTopic f.cache.entries t).toList ++ onTopic t
            ((f.apply (.subscribe p o now)).freshLog (post.takeWhile (!·.removes f.nextId)))
        else []) ∧
      got.Pairwise (·.seq < ·.seq)) ∧
    -- a subscriber that joined before the last reset
    (∀ (pre post : List BusOp) (s : Nat), (∀ op ∈ post, op.isReset = false) →
      s < (init.run pre).nextId →
      let f := (init.run pre).apply .resetSession
      let got := f.pushedTo post s t
      got = (if (f.patternOf? s).any (·.matchesTopic t) then
          onTopic t (f.freshLog (post.takeWhile (!·.removes s)))
        else []) ∧
      got.Pairwise (·.seq < ·.seq)) ∧
    -- the cached value of the topic is its last fresh event since the last reset
    (∀ (pre post : List BusOp), (∀ op ∈ post, op.isReset = false) →
      findTopic (init.run post).cache.entries t = (onTopic t (init.freshLog post)).getLast? ∧
      findTopic (((init.run pre).apply .resetSession).run post).cache.entries t =
        (onTopic t (((init.run pre).apply .resetSession).freshLog post)).getLast?) ∧
    -- a reset empties the cache and every queue
    (∀ pre : List BusOp, ((init.run pre).apply .resetSession).cache.entries = [] ∧
      ∀ S ∈ ((init.run pre).apply .resetSession).subscribers, S.queue.events = []) ∧
    -- an offer reaches every matching subscriber when accepted, and nobody otherwise
    (∀ (pre : List BusOp) (epoch : Nat) (e : TelemetryEvent),
      (init.run pre).pushes (.deliver epoch e) =
        if (init.run pre).cache.admission epoch e = .fresh then
          ((init.run pre).subscribers.filter (·.pattern.matchesTopic e.topic)).map ((·.id, e))
        else []) ∧
    -- a later subscriber receives a suffix of what an earlier one receives, both having
    -- joined after the last reset
    (∀ (pre mid post : List BusOp) (p₁ p₂ : TopicPattern) (o₁ o₂ : Option PluginId)
      (n₁ n₂ : Instant),
      let f := init.run pre
      let g := (f.apply (.subscribe p₁ o₁ n₁)).run mid
      p₁.matchesTopic t → p₂.matchesTopic t → (∀ op ∈ mid ++ post, op.isReset = false) →
      (∀ op ∈ mid ++ post, op.removes f.nextId = false) →
      (∀ op ∈ post, op.removes g.nextId = false) →
      g.pushedTo (.subscribe p₂ o₂ n₂ :: post) g.nextId t <:+
        f.pushedTo (.subscribe p₁ o₁ n₁ :: (mid ++ .subscribe p₂ o₂ n₂ :: post)) f.nextId t) ∧
    -- and with the earlier one having joined before the last reset
    (∀ (pre mid post : List BusOp) (s : Nat) (p₂ : TopicPattern) (o₂ : Option PluginId)
      (n₂ : Instant),
      let f := (init.run pre).apply .resetSession
      let g := f.run mid
      s < f.nextId → (f.patternOf? s).any (·.matchesTopic t) → p₂.matchesTopic t →
      (∀ op ∈ mid ++ post, op.isReset = false) → (∀ op ∈ mid ++ post, op.removes s = false) →
      (∀ op ∈ post, op.removes g.nextId = false) →
      g.pushedTo (.subscribe p₂ o₂ n₂ :: post) g.nextId t <:+
        f.pushedTo (mid ++ .subscribe p₂ o₂ n₂ :: post) s t) := by
  intro init
  have hinit : init.Sound := sound_new rules perTopic
  have htaken : ∀ (ops : List BusOp) (q : BusOp → Bool),
      (∀ op ∈ ops, op.isReset = false) → ∀ op ∈ ops.takeWhile q, op.isReset = false :=
    fun ops q hr op h => hr op ((List.takeWhile_sublist q).subset h)
  refine ⟨?_, ?_, ?_, ?_, ?_, ?_, ?_⟩
  · -- joined after the last reset
    intro pre post p o now hr f got
    have hf : f.Sound := hinit.run pre
    have hgot := pushedTo_subscribe hf p o now post t
    refine ⟨hgot, ?_⟩
    rw [show got = _ from hgot]
    split
    · have h := seq_increasing (f.apply (.subscribe p o now))
        (post.takeWhile (!·.removes f.nextId)) (htaken post _ hr) t
      simpa [apply] using h
    · exact List.Pairwise.nil
  · -- joined before the last reset
    intro pre post s hr hs f got
    have hf : f.Sound := (hinit.run pre).apply .resetSession
    have hgot := pushedTo_eq hf (s := s) (by simpa [f, apply] using hs) post t
    refine ⟨hgot, ?_⟩
    rw [show got = _ from hgot]
    split
    · exact (seq_increasing f _ (htaken post _ hr) t).sublist (List.sublist_append_right _ _)
    · exact List.Pairwise.nil
  · -- the cached value
    intro pre post hr
    constructor
    · simpa [init, Fanout.new] using findTopic_run init post hr t
    · simpa [apply, LastValueCache.reset] using
        findTopic_run ((init.run pre).apply .resetSession) post hr t
  · -- a reset
    intro pre
    exact ⟨rfl, resetSession_queues _⟩
  · -- an offer
    intro pre epoch e
    exact pushes_deliver _ epoch e
  · -- two subscribers, both after the last reset
    intro pre mid post p₁ p₂ o₁ o₂ n₁ n₂ f g hp₁ hp₂ hr hkeep₁ hkeep₂
    have hf : f.Sound := hinit.run pre
    have hW : (f.apply (.subscribe p₁ o₁ n₁)).Sound := hf.apply _
    have hs₁ : f.nextId < (f.apply (.subscribe p₁ o₁ n₁)).nextId := by simp [apply]
    have hpat : ((f.apply (.subscribe p₁ o₁ n₁)).patternOf? f.nextId).any (·.matchesTopic t) := by
      simp [patternOf?_subscribe hf, hp₁]
    have hL₀ : findTopic (f.apply (.subscribe p₁ o₁ n₁)).cache.entries t =
        ((findTopic f.cache.entries t).toList).getLast? := by
      simp [apply]
    rw [pushedTo_cons f, onTo_pushes_subscribe hf, if_pos hp₁]
    exact pushedTo_suffix hW hs₁ hpat hL₀ mid post p₂ o₂ n₂ hp₂ hr hkeep₁ hkeep₂
  · -- two subscribers, the earlier before the last reset
    intro pre mid post s p₂ o₂ n₂ f g hs hp hp₂ hr hkeep₁ hkeep₂
    have hf : f.Sound := (hinit.run pre).apply .resetSession
    have hL₀ : findTopic f.cache.entries t = ([] : List TelemetryEvent).getLast? := rfl
    simpa using pushedTo_suffix hf hs hp hL₀ mid post p₂ o₂ n₂ hp₂ hr hkeep₁ hkeep₂

end Tether
