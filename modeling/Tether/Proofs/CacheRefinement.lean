import Mathlib.Data.Finmap
import Mathlib.Data.String.Basic
import Tether.Cache
/-!
# Proofs.CacheRefinement — the cache is a finite map from topic to latest event

The cache keeps its values in a list sorted by topic (`LastValueCache.entries`), updated in
place by `upsertEvent`.  What the list stands for is a plain finite map from topic to event,
beside an epoch counter (`CacheSpec`):

* a reset starts the next epoch and empties the map;
* an offer made in another epoch is refused, and changes nothing;
* an offer whose sequence number is at or below the one stored for its topic is a
  duplicate naming that number, and changes nothing;
* any other offer becomes the value of its topic.

`Refines c m` says that the list stands for the map: the same epoch, entries strictly
sorted by topic, and the same lookup at every topic.  Both operations keep it and answer
alike (`Refines.accept`, `Refines.reset`), so it holds along every run from an empty cache
(`Refines.runOps`), and every read of the cache reads the map: the last sequence number, the
high-water marks, the size, emptiness, the value of a topic and the values matching a
pattern, in topic order (`Refines.mem_matching_iff`, `matching_sorted`).  The main statement
is `cache_refines_spec`.

A cached value is reported with its age and a stale flag; the flag is set exactly when the
first auto-stale rule whose pattern matches the topic has an interval below the age
(`isStale_iff`).
-/

namespace Tether

set_option autoImplicit false

/-! ## Topic-sorted entry lists -/

/-- Entries strictly ordered by topic, so one per topic. -/
def TopicSorted (es : List TelemetryEvent) : Prop :=
  es.Pairwise fun a b => a.topic < b.topic

/-- The entry of a topic, as the cache looks it up. -/
def findTopic (es : List TelemetryEvent) (t : String) : Option TelemetryEvent :=
  es.find? (·.topic == t)

@[simp] theorem findTopic_nil (t : String) : findTopic [] t = none := rfl

theorem findTopic_cons (x : TelemetryEvent) (es : List TelemetryEvent) (t : String) :
    findTopic (x :: es) t = if x.topic = t then some x else findTopic es t := by
  by_cases h : x.topic = t <;> simp [findTopic, h]

theorem findTopic_eq_some {es : List TelemetryEvent} {t : String} {x : TelemetryEvent}
    (h : findTopic es t = some x) : x.topic = t ∧ x ∈ es := by
  unfold findTopic at h
  exact ⟨by simpa using List.find?_some h, List.mem_of_find?_eq_some h⟩

/-- In a sorted list an entry is what the lookup of its own topic finds. -/
theorem TopicSorted.findTopic_eq_some_iff {es : List TelemetryEvent} (h : TopicSorted es)
    {x : TelemetryEvent} : findTopic es x.topic = some x ↔ x ∈ es := by
  refine ⟨fun hx => (findTopic_eq_some hx).2, fun hx => ?_⟩
  induction es with
  | nil => cases hx
  | cons y rest ih =>
      have hrest : TopicSorted rest := (List.pairwise_cons.mp h).2
      rw [findTopic_cons]
      rcases List.mem_cons.mp hx with rfl | hx
      · simp
      · have hlt : y.topic < x.topic := (List.pairwise_cons.mp h).1 x hx
        rw [if_neg (ne_of_lt hlt), ih hrest hx]

/-- In a sorted list the entries of a topic are the one its lookup finds. -/
theorem TopicSorted.filter_topic {es : List TelemetryEvent} (h : TopicSorted es) (t : String) :
    es.filter (·.topic == t) = (findTopic es t).toList := by
  induction es with
  | nil => rfl
  | cons y rest ih =>
      have hy : ∀ z ∈ rest, y.topic < z.topic := (List.pairwise_cons.mp h).1
      rw [findTopic_cons]
      by_cases hyt : y.topic = t
      · have hnone : rest.filter (·.topic == t) = [] := by
          apply List.filter_eq_nil_iff.mpr
          intro z hz
          have hne : z.topic ≠ t := hyt ▸ ne_of_gt (hy z hz)
          simpa using hne
        simp [hyt, hnone]
      · simp [hyt, ih (List.pairwise_cons.mp h).2]

/-! ## Replacing the value of a topic -/

section Upsert

variable (e : TelemetryEvent)

theorem mem_upsertEvent {x : TelemetryEvent} {es : List TelemetryEvent}
    (h : x ∈ upsertEvent e es) : x = e ∨ x ∈ es := by
  induction es with
  | nil => simpa [upsertEvent] using h
  | cons y rest ih =>
      unfold upsertEvent at h
      split_ifs at h
      · rcases List.mem_cons.mp h with rfl | hx
        · exact .inl rfl
        · exact .inr hx
      · rcases List.mem_cons.mp h with rfl | hx
        · exact .inl rfl
        · exact .inr (List.mem_cons_of_mem y hx)
      · rcases List.mem_cons.mp h with rfl | hx
        · exact .inr List.mem_cons_self
        · rcases ih hx with rfl | hx
          · exact .inl rfl
          · exact .inr (List.mem_cons_of_mem y hx)

theorem upsertEvent_sorted {es : List TelemetryEvent} (h : TopicSorted es) :
    TopicSorted (upsertEvent e es) := by
  induction es with
  | nil => simp [upsertEvent, TopicSorted]
  | cons y rest ih =>
      have hy : ∀ z ∈ rest, y.topic < z.topic := (List.pairwise_cons.mp h).1
      have hrest : TopicSorted rest := (List.pairwise_cons.mp h).2
      unfold upsertEvent
      split_ifs with hlt heq
      · refine List.Pairwise.cons (fun z hz => ?_) h
        rcases List.mem_cons.mp hz with rfl | hz
        · exact hlt
        · exact lt_trans hlt (hy z hz)
      · exact List.Pairwise.cons (fun z hz => heq ▸ hy z hz) hrest
      · have hgt : y.topic < e.topic := lt_of_le_of_ne (not_lt.mp hlt) (Ne.symm heq)
        refine List.Pairwise.cons (fun z hz => ?_) (ih hrest)
        rcases mem_upsertEvent e hz with rfl | hz
        · exact hgt
        · exact hy z hz

@[simp] theorem findTopic_upsertEvent_self (es : List TelemetryEvent) :
    findTopic (upsertEvent e es) e.topic = some e := by
  induction es with
  | nil => simp [upsertEvent, findTopic]
  | cons y rest ih =>
      unfold upsertEvent
      split_ifs with hlt heq
      · simp [findTopic_cons]
      · simp [findTopic_cons]
      · rw [findTopic_cons, if_neg (Ne.symm heq), ih]

theorem findTopic_upsertEvent_of_ne {t : String} (ht : e.topic ≠ t) (es : List TelemetryEvent) :
    findTopic (upsertEvent e es) t = findTopic es t := by
  induction es with
  | nil => simp [upsertEvent, findTopic_cons, ht]
  | cons y rest ih =>
      unfold upsertEvent
      split_ifs with hlt heq
      · rw [findTopic_cons, if_neg ht]
      · rw [findTopic_cons, if_neg ht, findTopic_cons y, if_neg (heq ▸ ht)]
      · rw [findTopic_cons, findTopic_cons y, ih]

end Upsert

/-! ## Offering an event -/

namespace LastValueCache

variable {c : LastValueCache} {epoch : Nat} {e : TelemetryEvent}

/-- A fresh event becomes the value of its topic. -/
theorem accept_fresh (h : c.admission epoch e = .fresh) :
    c.accept epoch e = (.fresh, { c with entries := upsertEvent e c.entries }) := by
  simp [accept, h]

/-- A fresh event is numbered above the cached value of its topic. -/
theorem seq_lt_of_admission_fresh (h : c.admission epoch e = .fresh) {x : TelemetryEvent}
    (hx : c.find? e.topic = some x) : x.seq < e.seq := by
  have hseq : c.lastSeq? e.topic = some x.seq := by simp [lastSeq?, hx]
  unfold admission at h
  split_ifs at h
  rw [hseq] at h
  simp only at h
  split_ifs at h with hle
  omega

/-- A refused event changes nothing. -/
theorem accept_refused (h : c.admission epoch e ≠ .fresh) :
    c.accept epoch e = (c.admission epoch e, c) := by
  unfold accept
  split
  · contradiction
  · rfl

end LastValueCache

/-! ## The specification -/

/-- What the cache stands for: the epoch, and the latest event of each topic. -/
structure CacheSpec where
  epoch : Nat
  values : Finmap fun _ : String => TelemetryEvent

namespace CacheSpec

/-- A new cache: the first epoch, and no values. -/
def initial : CacheSpec := ⟨0, ∅⟩

/-- Starts the next epoch with no values. -/
def reset (m : CacheSpec) : CacheSpec := ⟨m.epoch + 1, ∅⟩

/-- Offers an event received during `epoch`: refused in another epoch, a duplicate at or
below the stored sequence number of its topic, and otherwise the value of its topic. -/
def accept (m : CacheSpec) (epoch : Nat) (e : TelemetryEvent) : Admission × CacheSpec :=
  if epoch ≠ m.epoch then (.wrongEpoch, m)
  else match m.values.lookup e.topic with
    | some last =>
      if e.seq ≤ last.seq then (.duplicate last.seq, m)
      else (.fresh, ⟨m.epoch, m.values.insert e.topic e⟩)
    | none => (.fresh, ⟨m.epoch, m.values.insert e.topic e⟩)

end CacheSpec

/-- An operation on the cache. -/
inductive CacheOp where
  | accept (epoch : Nat) (e : TelemetryEvent)
  | reset

/-- Whether an operation is a reset. -/
def CacheOp.isReset : CacheOp → Bool
  | .reset => true
  | .accept .. => false

/-- What an operation answers: the admission of an offer, or the epoch a reset started. -/
inductive CacheAnswer where
  | admission (a : Admission)
  | epoch (n : Nat)
  deriving DecidableEq

/-- Runs operations in order with `perform`: every answer, and the state after. -/
def foldAnswers {σ α β : Type} (perform : σ → α → β × σ) : σ → List α → List β × σ
  | s, [] => ([], s)
  | s, op :: ops =>
    let (b, s) := perform s op
    let (bs, s) := foldAnswers perform s ops
    (b :: bs, s)

/-- One operation on the cache. -/
def LastValueCache.perform (c : LastValueCache) : CacheOp → CacheAnswer × LastValueCache
  | .accept epoch e => ((.admission (c.accept epoch e).1), (c.accept epoch e).2)
  | .reset => (.epoch c.reset.epoch, c.reset)

/-- One operation on the specification. -/
def CacheSpec.perform (m : CacheSpec) : CacheOp → CacheAnswer × CacheSpec
  | .accept epoch e => ((.admission (m.accept epoch e).1), (m.accept epoch e).2)
  | .reset => (.epoch m.reset.epoch, m.reset)

/-- Runs operations on the cache: every answer, and the cache after. -/
def LastValueCache.runOps (c : LastValueCache) (ops : List CacheOp) :
    List CacheAnswer × LastValueCache :=
  foldAnswers LastValueCache.perform c ops

/-- Runs operations on the specification: every answer, and the state after. -/
def CacheSpec.runOps (m : CacheSpec) (ops : List CacheOp) : List CacheAnswer × CacheSpec :=
  foldAnswers CacheSpec.perform m ops

/-! ## The refinement -/

/-- The cache `c` stands for the specification state `m`. -/
structure Refines (c : LastValueCache) (m : CacheSpec) : Prop where
  epoch_eq : c.epoch = m.epoch
  sorted : TopicSorted c.entries
  find?_eq : ∀ t, c.find? t = m.values.lookup t

theorem refines_initial (rules : List (TopicPattern × Span)) :
    Refines { autostale := rules } CacheSpec.initial :=
  ⟨rfl, List.Pairwise.nil, fun t => by simp [LastValueCache.find?, CacheSpec.initial]⟩

namespace Refines

variable {c : LastValueCache} {m : CacheSpec}

theorem lastSeq?_eq (h : Refines c m) (t : String) :
    c.lastSeq? t = (m.values.lookup t).map (·.seq) := by
  rw [LastValueCache.lastSeq?, h.find?_eq]

/-- Replacing the value of a topic on both sides keeps the refinement. -/
theorem insert (h : Refines c m) (e : TelemetryEvent) :
    Refines { c with entries := upsertEvent e c.entries } ⟨m.epoch, m.values.insert e.topic e⟩ := by
  refine ⟨h.epoch_eq, upsertEvent_sorted e h.sorted, fun t => ?_⟩
  change findTopic (upsertEvent e c.entries) t = _
  by_cases ht : e.topic = t
  · subst ht
    rw [findTopic_upsertEvent_self, Finmap.lookup_insert]
  · rw [findTopic_upsertEvent_of_ne e ht, Finmap.lookup_insert_of_ne _ (Ne.symm ht)]
    exact h.find?_eq t

theorem reset (h : Refines c m) : Refines c.reset m.reset :=
  ⟨by simp [LastValueCache.reset, CacheSpec.reset, h.epoch_eq], List.Pairwise.nil,
    fun t => by simp [LastValueCache.reset, CacheSpec.reset, LastValueCache.find?]⟩

/-- An offer is answered alike and keeps the refinement. -/
theorem accept (h : Refines c m) (epoch : Nat) (e : TelemetryEvent) :
    (c.accept epoch e).1 = (m.accept epoch e).1 ∧
      Refines (c.accept epoch e).2 (m.accept epoch e).2 := by
  have hseq := h.lastSeq?_eq e.topic
  by_cases hep : epoch = m.epoch
  · subst hep
    cases hl : m.values.lookup e.topic with
    | none =>
        have hadm : c.admission m.epoch e = .fresh := by
          simp [LastValueCache.admission, h.epoch_eq, hseq, hl]
        rw [LastValueCache.accept_fresh hadm]
        simp only [CacheSpec.accept, hl, ne_eq, not_true_eq_false, if_false]
        exact ⟨trivial, h.insert e⟩
    | some last =>
        by_cases hle : e.seq ≤ last.seq
        · have hadm : c.admission m.epoch e = .duplicate last.seq := by
            simp [LastValueCache.admission, h.epoch_eq, hseq, hl, hle]
          rw [LastValueCache.accept_refused (by simp [hadm]), hadm]
          simp only [CacheSpec.accept, hl, hle, ne_eq, not_true_eq_false, if_false, if_true]
          exact ⟨trivial, h⟩
        · have hadm : c.admission m.epoch e = .fresh := by
            simp [LastValueCache.admission, h.epoch_eq, hseq, hl, hle]
          rw [LastValueCache.accept_fresh hadm]
          simp only [CacheSpec.accept, hl, hle, ne_eq, not_true_eq_false, if_false]
          exact ⟨trivial, h.insert e⟩
  · have hadm : c.admission epoch e = .wrongEpoch := by
      simp [LastValueCache.admission, h.epoch_eq, hep]
    rw [LastValueCache.accept_refused (by simp [hadm]), hadm]
    simp only [CacheSpec.accept, hep, ne_eq, not_false_eq_true, if_true]
    exact ⟨trivial, h⟩

/-- One operation is answered alike and keeps the refinement. -/
theorem perform (h : Refines c m) (op : CacheOp) :
    (c.perform op).1 = (m.perform op).1 ∧ Refines (c.perform op).2 (m.perform op).2 := by
  cases op with
  | accept epoch e =>
      obtain ⟨hans, hst⟩ := h.accept epoch e
      exact ⟨by simp [LastValueCache.perform, CacheSpec.perform, hans], hst⟩
  | reset =>
      have hr := h.reset
      exact ⟨by simp [LastValueCache.perform, CacheSpec.perform, hr.epoch_eq], hr⟩

/-- Along any run the answers agree and the refinement is kept. -/
theorem runOps (h : Refines c m) (ops : List CacheOp) :
    (c.runOps ops).1 = (m.runOps ops).1 ∧ Refines (c.runOps ops).2 (m.runOps ops).2 := by
  induction ops generalizing c m with
  | nil => exact ⟨rfl, h⟩
  | cons op ops ih =>
      obtain ⟨hans, hst⟩ := h.perform op
      obtain ⟨hans', hst'⟩ := ih hst
      simp only [LastValueCache.runOps, CacheSpec.runOps, foldAnswers] at hans' hst' ⊢
      exact ⟨by rw [hans, hans'], hst'⟩

/-! ### Reads -/

theorem get?_eq (h : Refines c m) (t : String) (now : Instant) :
    c.get? t now = (m.values.lookup t).map (c.describe now) := by
  rw [LastValueCache.get?, h.find?_eq]

/-- An entry of the list is the value the map gives its topic. -/
theorem mem_entries_iff (h : Refines c m) {x : TelemetryEvent} :
    x ∈ c.entries ↔ m.values.lookup x.topic = some x := by
  rw [← h.find?_eq]
  exact (h.sorted.findTopic_eq_some_iff).symm

theorem mem_values_iff (h : Refines c m) {t : String} :
    t ∈ m.values ↔ t ∈ c.entries.map (·.topic) := by
  rw [Finmap.mem_iff, List.mem_map]
  constructor
  · rintro ⟨x, hx⟩
    have hfind : findTopic c.entries t = some x := (h.find?_eq t).trans hx
    exact ⟨x, (findTopic_eq_some hfind).2, (findTopic_eq_some hfind).1⟩
  · rintro ⟨x, hx, rfl⟩
    exact ⟨x, h.mem_entries_iff.mp hx⟩

theorem size_eq (h : Refines c m) : c.size = m.values.keys.card := by
  have hkeys : m.values.keys = (c.entries.map (·.topic)).toFinset := by
    ext t
    rw [Finmap.mem_keys, List.mem_toFinset, h.mem_values_iff]
  have hnodup : (c.entries.map (·.topic)).Nodup :=
    List.Pairwise.imp ne_of_lt (List.pairwise_map.mpr h.sorted)
  rw [hkeys, List.toFinset_card_of_nodup hnodup, List.length_map, LastValueCache.size]

theorem entries_eq_nil_iff (h : Refines c m) : c.entries = [] ↔ m.values = ∅ := by
  constructor
  · intro hnil
    apply Finmap.ext_lookup
    intro t
    rw [← h.find?_eq, LastValueCache.find?, hnil, Finmap.lookup_empty]
    rfl
  · intro hempty
    apply List.eq_nil_iff_forall_not_mem.mpr
    intro x hx
    have hlook := h.mem_entries_iff.mp hx
    rw [hempty, Finmap.lookup_empty] at hlook
    cases hlook

theorem lookup_highWaterMarks (h : Refines c m) (t : String) :
    c.highWaterMarks.lookup t = (m.values.lookup t).map (·.seq) := by
  rw [← h.find?_eq, LastValueCache.highWaterMarks]
  change _ = (findTopic c.entries t).map (·.seq)
  induction c.entries with
  | nil => rfl
  | cons x rest ih =>
      rw [findTopic_cons]
      by_cases hx : x.topic = t
      · simp [hx]
      · have hne : (t == x.topic) = false := beq_eq_false_iff_ne.mpr (Ne.symm hx)
        simp only [List.map_cons, List.lookup_cons, hne, if_neg hx, ih]

theorem mem_matching_iff (h : Refines c m) {p : TopicPattern} {now : Instant}
    {v : CachedValue} :
    v ∈ c.matching p now ↔
      ∃ x, m.values.lookup x.topic = some x ∧ p.matchesTopic x.topic = true ∧
        v = c.describe now x := by
  simp only [LastValueCache.matching, List.mem_map, List.mem_filter, h.mem_entries_iff]
  constructor
  · rintro ⟨x, ⟨hx, hp⟩, rfl⟩
    exact ⟨x, hx, hp, rfl⟩
  · rintro ⟨x, hx, hp, rfl⟩
    exact ⟨x, ⟨hx, hp⟩, rfl⟩

end Refines

/-- The high-water marks are in topic order. -/
theorem highWaterMarks_sorted {c : LastValueCache} (h : TopicSorted c.entries) :
    (c.highWaterMarks.map Prod.fst).Pairwise (· < ·) := by
  rw [LastValueCache.highWaterMarks, List.map_map]
  exact List.pairwise_map.mpr h

/-- The values matching a pattern are in topic order. -/
theorem matching_sorted {c : LastValueCache} (h : TopicSorted c.entries) (p : TopicPattern)
    (now : Instant) : (c.matching p now).Pairwise (·.event.topic < ·.event.topic) := by
  simpa [LastValueCache.matching, LastValueCache.describe, List.pairwise_map] using
    h.filter (fun x => p.matchesTopic x.topic)

/-! ## Staleness -/

/-- Among `rules`, the first whose pattern matches `topic` has an interval below `age`. -/
def StaleBy (rules : List (TopicPattern × Span)) (topic : String) (age : Span) : Prop :=
  ∃ pre p after post, rules = pre ++ (p, after) :: post ∧
    (∀ r ∈ pre, r.1.matchesTopic topic = false) ∧ p.matchesTopic topic = true ∧
      after.lt age = true

theorem isStale_iff (c : LastValueCache) (topic : String) (age : Span) :
    c.isStale topic age = true ↔ StaleBy c.autostale topic age := by
  unfold LastValueCache.isStale StaleBy
  constructor
  · intro hs
    split at hs
    · rename_i q after hfind
      obtain ⟨hq, pre, post, hsplit, hpre⟩ := List.find?_eq_some_iff_append.mp hfind
      exact ⟨pre, q, after, post, hsplit, fun r hr => by simpa using hpre r hr, hq, hs⟩
    · cases hs
  · rintro ⟨pre, q, after, post, hsplit, hpre, hq, hlt⟩
    have hfind : c.autostale.find? (·.1.matchesTopic topic) = some (q, after) :=
      List.find?_eq_some_iff_append.mpr ⟨hq, pre, post, hsplit, fun r hr => by simp [hpre r hr]⟩
    rw [hfind]
    exact hlt

/-- A value is reported with its age at `now`, and stale exactly when the first matching
rule says so. -/
theorem describe_spec (c : LastValueCache) (now : Instant) (x : TelemetryEvent) :
    (c.describe now x).event = x ∧ (c.describe now x).age = x.receivedAt.ageAt now ∧
      ((c.describe now x).stale = true ↔ StaleBy c.autostale x.topic (x.receivedAt.ageAt now)) :=
  ⟨rfl, rfl, isStale_iff c x.topic _⟩

/-! ## Runs -/

/-- An offer never changes the epoch. -/
theorem CacheSpec.accept_epoch (m : CacheSpec) (epoch : Nat) (e : TelemetryEvent) :
    (m.accept epoch e).2.epoch = m.epoch := by
  unfold CacheSpec.accept
  split_ifs
  · rfl
  · split
    · split_ifs <;> rfl
    · rfl

theorem CacheSpec.runOps_epoch (m : CacheSpec) (ops : List CacheOp) :
    (m.runOps ops).2.epoch = m.epoch + (ops.filter CacheOp.isReset).length := by
  induction ops generalizing m with
  | nil => rfl
  | cons op ops ih =>
      cases op with
      | accept epoch e =>
          have := ih (m.accept epoch e).2
          simp only [CacheSpec.runOps, foldAnswers, CacheSpec.perform] at this ⊢
          simp [this, CacheSpec.accept_epoch, CacheOp.isReset]
      | reset =>
          have := ih m.reset
          simp only [CacheSpec.runOps, foldAnswers, CacheSpec.perform] at this ⊢
          rw [this, List.filter_cons_of_pos rfl, List.length_cons]
          simp only [CacheSpec.reset]
          omega

theorem LastValueCache.runOps_autostale (c : LastValueCache) (ops : List CacheOp) :
    (c.runOps ops).2.autostale = c.autostale := by
  induction ops generalizing c with
  | nil => rfl
  | cons op ops ih =>
      have hstep : (c.perform op).2.autostale = c.autostale := by
        cases op with
        | accept epoch e =>
            by_cases hf : c.admission epoch e = .fresh
            · simp [LastValueCache.perform, LastValueCache.accept_fresh hf]
            · simp [LastValueCache.perform, LastValueCache.accept_refused hf]
        | reset => rfl
      have := ih (c.perform op).2
      simp only [LastValueCache.runOps, foldAnswers] at this ⊢
      rw [this, hstep]

/-- **The cache refines a finite map.**  Along any run of offers and resets from a new cache
with any auto-stale rules, the cache answers every operation as the specification does, its
epoch counts the resets, and every read of it reads the specification's map: the last
sequence number and the high-water mark of a topic, the number of topics, emptiness, the
value of a topic, and the values matching a pattern in strict topic order, each with its
age and a stale flag set by the first matching rule. -/
theorem cache_refines_spec (rules : List (TopicPattern × Span)) (ops : List CacheOp) :
    let c := (({ autostale := rules } : LastValueCache).runOps ops)
    let m := CacheSpec.initial.runOps ops
    c.1 = m.1 ∧ c.2.epoch = (ops.filter CacheOp.isReset).length ∧
      (∀ t, c.2.lastSeq? t = (m.2.values.lookup t).map (·.seq)) ∧
      (∀ t, c.2.highWaterMarks.lookup t = (m.2.values.lookup t).map (·.seq)) ∧
      (c.2.highWaterMarks.map Prod.fst).Pairwise (· < ·) ∧
      c.2.size = m.2.values.keys.card ∧ (c.2.entries = [] ↔ m.2.values = ∅) ∧
      (∀ t now, c.2.get? t now = (m.2.values.lookup t).map (c.2.describe now)) ∧
      (∀ p now v, v ∈ c.2.matching p now ↔
        ∃ x, m.2.values.lookup x.topic = some x ∧ p.matchesTopic x.topic = true ∧
          v = c.2.describe now x) ∧
      (∀ p now, (c.2.matching p now).Pairwise (·.event.topic < ·.event.topic)) ∧
      (∀ now x, (c.2.describe now x).age = x.receivedAt.ageAt now ∧
        ((c.2.describe now x).stale = true ↔ StaleBy rules x.topic (x.receivedAt.ageAt now))) := by
  intro c m
  obtain ⟨hans, href⟩ := (refines_initial rules).runOps ops
  have hrules : c.2.autostale = rules := LastValueCache.runOps_autostale _ ops
  have hepoch : c.2.epoch = (ops.filter CacheOp.isReset).length := by
    rw [href.epoch_eq, CacheSpec.runOps_epoch]
    simp [CacheSpec.initial]
  refine ⟨hans, hepoch, href.lastSeq?_eq, href.lookup_highWaterMarks,
    highWaterMarks_sorted href.sorted, href.size_eq, href.entries_eq_nil_iff, href.get?_eq,
    fun p now v => href.mem_matching_iff, fun p now => matching_sorted href.sorted p now,
    fun now x => ?_⟩
  obtain ⟨-, hage, hstale⟩ := describe_spec c.2 now x
  rw [hrules] at hstale
  exact ⟨hage, hstale⟩

end Tether
