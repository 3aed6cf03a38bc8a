import Mathlib
import Tether.Proofs.PluginLifecycle
import Tether.Proofs.HostKeeps
/-!
# Proofs.PanelView — the active panels are a view of the bus cache

A panel holds no values of its own.  The host keeps the names of the active panels, in
name order, with the patterns each was built over (`Host.panels`), and a panel's snapshot
reads the cache when asked (`Host.panelSnapshot`): the values the cache holds for each
pattern, one per topic, sorted by topic.

With one value per topic in the cache, that snapshot is exactly `Host.cacheView`: every
cached topic that one of the panel's patterns matches, with its value, in topic order
(`Host.panelSnapshot_of_lookup`).

Along any run of registry calls and bus operations from a new registry
(`Host.panelRun`), the active panels are the active panel plugins, each over the patterns
of its descriptor (`Host.PanelsAgree`): activation adds a panel exactly when it succeeds,
deactivation and disposal take it away, and nothing else touches them.  The main statement
is `panels_view_cache`; every built-in plugin is a panel over its declared topics
(`builtin_panels_over_topics`).
-/

namespace Tether

open Tether.Json

set_option autoImplicit false

/-- In a sorted cache list, two entries of one topic are one entry. -/
theorem TopicSorted.eq_of_topic_eq {es : List TelemetryEvent} (hs : TopicSorted es)
    {x y : TelemetryEvent} (hx : x ∈ es) (hy : y ∈ es) (ht : x.topic = y.topic) : x = y := by
  have hfx := (hs.findTopic_eq_some_iff).mpr hx
  rw [ht, (hs.findTopic_eq_some_iff).mpr hy] at hfx
  exact (Option.some.inj hfx).symm

namespace Host

/-! ## One value per topic -/

/-- The values of a list keyed by topic, the last of each topic kept, as a snapshot
gathers them. -/
def byTopic (values : List CachedValue) : List (String × CachedValue) :=
  values.foldl (fun acc v => (v.event.topic, v) :: acc.filter (·.1 != v.event.topic)) []

section ByTopic

/-- One step of `byTopic`: the value replaces whatever its topic held. -/
abbrev keep (acc : List (String × CachedValue)) (v : CachedValue) : List (String × CachedValue) :=
  (v.event.topic, v) :: acc.filter (·.1 != v.event.topic)

theorem keys_nodup_foldl_keep : ∀ (l : List CachedValue) (acc : List (String × CachedValue)),
    (acc.map (·.1)).Nodup → ((l.foldl keep acc).map (·.1)).Nodup
  | [], _, h => h
  | v :: rest, acc, h => by
    refine keys_nodup_foldl_keep rest _ ?_
    rw [List.map_cons, List.nodup_cons]
    exact ⟨by simp, h.sublist (List.filter_sublist.map _)⟩

/-- What a step keeps was there before, or is a value of the list under its own topic. -/
theorem mem_foldl_keep : ∀ (l : List CachedValue) (acc : List (String × CachedValue))
    {x : String × CachedValue}, x ∈ l.foldl keep acc → x ∈ acc ∨ x.2 ∈ l ∧ x.1 = x.2.event.topic
  | [], _, _, hx => .inl hx
  | v :: rest, acc, x, hx => by
    rcases mem_foldl_keep rest _ hx with hx | ⟨hl, ht⟩
    · rcases List.mem_cons.mp hx with rfl | hx
      · exact .inr ⟨List.mem_cons_self, rfl⟩
      · exact .inl (List.mem_filter.mp hx).1
    · exact .inr ⟨List.mem_cons_of_mem _ hl, ht⟩

/-- A topic once held stays held. -/
theorem key_mem_foldl_keep {t : String} : ∀ (l : List CachedValue) (acc : List (String × CachedValue)),
    (∃ w, (t, w) ∈ acc) → ∃ w, (t, w) ∈ l.foldl keep acc
  | [], _, h => h
  | v :: rest, acc, ⟨w, hw⟩ => by
    refine key_mem_foldl_keep rest _ ?_
    by_cases ht : t = v.event.topic
    · exact ⟨v, ht ▸ List.mem_cons_self⟩
    · exact ⟨w, List.mem_cons_of_mem _ (List.mem_filter.mpr ⟨hw, by simp [ht]⟩)⟩

theorem key_mem_foldl_keep_of_mem {v : CachedValue} : ∀ (l : List CachedValue)
    (acc : List (String × CachedValue)), v ∈ l → ∃ w, (v.event.topic, w) ∈ l.foldl keep acc
  | _ :: rest, acc, hv => by
    rcases List.mem_cons.mp hv with rfl | hv
    · exact key_mem_foldl_keep rest _ ⟨v, List.mem_cons_self⟩
    · exact key_mem_foldl_keep_of_mem rest _ hv

/-- When the values of one topic are one value, `byTopic` holds each value under its topic
and nothing else. -/
theorem mem_byTopic {l : List CachedValue}
    (hfun : ∀ v ∈ l, ∀ w ∈ l, v.event.topic = w.event.topic → v = w) {x : String × CachedValue} :
    x ∈ byTopic l ↔ x.2 ∈ l ∧ x.1 = x.2.event.topic := by
  have hmem : ∀ {y}, y ∈ byTopic l → y.2 ∈ l ∧ y.1 = y.2.event.topic := fun hy =>
    (mem_foldl_keep l [] hy).resolve_left List.not_mem_nil
  refine ⟨hmem, fun ⟨hl, ht⟩ => ?_⟩
  obtain ⟨t, v⟩ := x
  obtain ⟨w, hw⟩ := key_mem_foldl_keep_of_mem l [] hl
  obtain ⟨hwl, hwt⟩ := hmem hw
  -- the value found under the topic is the value itself
  obtain rfl := hfun v hl w hwl hwt
  exact (show t = v.event.topic from ht) ▸ hw

theorem byTopic_keys_nodup (l : List CachedValue) : ((byTopic l).map (·.1)).Nodup :=
  keys_nodup_foldl_keep l [] List.nodup_nil

end ByTopic

/-! ## A snapshot is a view of the cache -/

/-- What a panel over the patterns `qs` shows: every cached topic that one of them matches,
with its value, in topic order. -/
def cacheView (h : Host) (qs : List TopicPattern) : List (String × CachedValue) :=
  (h.fanout.cache.entries.filter fun e => qs.any (·.matchesTopic e.topic)).map
    fun e => (e.topic, h.fanout.cache.describe h.now e)

theorem panelSnapshot_eq (h : Host) (n : String) :
    h.panelSnapshot n = (h.panels.lookup n).map fun ps =>
      (byTopic (ps.flatMap fun p => (h.cachedFor p).toOption.getD [])).mergeSort
        fun a b => a.1 ≤ b.1 := rfl

/-- Patterns that all read gather the values the cache matches for each. -/
theorem flatMap_cachedFor (h : Host) : ∀ {ps : List String} {qs : List TopicPattern},
    ps.map TopicPattern.parse = qs.map .ok →
      ps.flatMap (fun p => (h.cachedFor p).toOption.getD []) =
        qs.flatMap fun q => h.fanout.cached q h.now
  | [], [], _ => rfl
  | p :: ps, q :: qs, hq => by
    simp only [List.map_cons, List.cons.injEq] at hq
    rw [List.flatMap_cons, List.flatMap_cons, flatMap_cachedFor h hq.2]
    simp only [cachedFor, hq.1, Except.toOption, Option.getD]
  | [], _ :: _, hq => by simp at hq
  | _ :: _, [], hq => by simp at hq

theorem mem_flatMap_cached (h : Host) (qs : List TopicPattern) (v : CachedValue) :
    v ∈ qs.flatMap (fun q => h.fanout.cached q h.now) ↔
      ∃ e ∈ h.fanout.cache.entries, (∃ q ∈ qs, q.matchesTopic e.topic = true) ∧
        h.fanout.cache.describe h.now e = v := by
  simp only [List.mem_flatMap, Fanout.cached, LastValueCache.matching, List.mem_map, List.mem_filter]
  constructor
  · rintro ⟨q, hq, e, ⟨he, hm⟩, rfl⟩
    exact ⟨e, he, ⟨q, hq, hm⟩, rfl⟩
  · rintro ⟨e, he, ⟨q, hq, hm⟩, rfl⟩
    exact ⟨q, hq, e, ⟨he, hm⟩, rfl⟩

/-- The strict topic order of snapshot lists. -/
theorem topic_lt_antisymm : Std.Antisymm fun a b : String × CachedValue => a.1 < b.1 :=
  ⟨fun _ _ h₁ h₂ => absurd (h₁.trans h₂) (lt_irrefl _)⟩

theorem topic_lt_irrefl : Std.Irrefl fun a b : String × CachedValue => a.1 < b.1 :=
  ⟨fun _ => lt_irrefl _⟩

/-- Sorting values with distinct topics orders them strictly by topic. -/
theorem mergeSort_topic_lt {l : List (String × CachedValue)} (hnd : (l.map (·.1)).Nodup) :
    (l.mergeSort fun a b => a.1 ≤ b.1).Pairwise fun a b => a.1 < b.1 := by
  have hle : (l.mergeSort fun a b => a.1 ≤ b.1).Pairwise fun a b => decide (a.1 ≤ b.1) :=
    @List.pairwise_mergeSort _ (fun a b => decide (a.1 ≤ b.1))
      (fun _ _ _ hab hbc => decide_eq_true (le_trans (of_decide_eq_true hab) (of_decide_eq_true hbc)))
      (fun a b => by
        simp only [Bool.or_eq_true, decide_eq_true_eq]
        exact le_total a.1 b.1) l
  have hperm := (List.mergeSort_perm l fun a b => decide (a.1 ≤ b.1)).map Prod.fst
  have hne : (l.mergeSort fun a b => a.1 ≤ b.1).Pairwise fun a b => a.1 ≠ b.1 :=
    List.pairwise_map.mp (hperm.nodup_iff.mpr hnd)
  exact (hle.and hne).imp fun ⟨h₁, h₂⟩ => lt_of_le_of_ne (of_decide_eq_true h₁) h₂

theorem cacheView_topic_lt (h : Host) (hs : TopicSorted h.fanout.cache.entries) (qs : List TopicPattern) :
    (h.cacheView qs).Pairwise fun a b => a.1 < b.1 :=
  List.pairwise_map.mpr (hs.sublist List.filter_sublist)

/-- With one value per topic in the cache, a panel over patterns that all read shows the
cache's view of them. -/
theorem panelSnapshot_of_lookup (h : Host) (hs : TopicSorted h.fanout.cache.entries) {n : String}
    {ps : List String} {qs : List TopicPattern} (hl : h.panels.lookup n = some ps)
    (hq : ps.map TopicPattern.parse = qs.map .ok) : h.panelSnapshot n = some (h.cacheView qs) := by
  rw [panelSnapshot_eq, hl, Option.map_some, flatMap_cachedFor h hq]
  congr 1
  have hfun : ∀ v ∈ qs.flatMap (fun q => h.fanout.cached q h.now), ∀ w ∈ qs.flatMap (fun q => h.fanout.cached q h.now),
      v.event.topic = w.event.topic → v = w := by
    intro v hv w hw ht
    obtain ⟨e, he, -, rfl⟩ := (mem_flatMap_cached h qs v).mp hv
    obtain ⟨e', he', -, rfl⟩ := (mem_flatMap_cached h qs w).mp hw
    rw [hs.eq_of_topic_eq he he' ht]
  have := topic_lt_antisymm
  have := topic_lt_irrefl
  refine List.Pairwise.eq_of_mem_iff (mergeSort_topic_lt (byTopic_keys_nodup _))
    (cacheView_topic_lt h hs qs) fun ⟨t, v⟩ => ?_
  rw [List.mem_mergeSort, mem_byTopic hfun, mem_flatMap_cached]
  simp only [cacheView, List.mem_map, List.mem_filter, List.any_eq_true, Prod.mk.injEq]
  constructor
  · rintro ⟨⟨e, he, hm, rfl⟩, rfl⟩
    exact ⟨e, ⟨he, hm⟩, rfl, rfl⟩
  · rintro ⟨e, ⟨he, hm⟩, rfl, rfl⟩
    exact ⟨⟨e, he, hm, rfl⟩, rfl⟩

/-! ## The list of active panels -/

section PanelList

variable {n : String} {ps : List String} {l : List (String × List String)}

/-- The active panels are strictly ordered by name, and each one's patterns all read. -/
structure PanelsWellFormed (l : List (String × List String)) : Prop where
  sorted : l.Pairwise fun a b => a.1 < b.1
  read : ∀ x ∈ l, ∀ p ∈ x.2, ∃ q, TopicPattern.parse p = .ok q

theorem mem_insertPanel_of_mem {x : String × List String} :
    x ∈ insertPanel n ps l → x = (n, ps) ∨ x ∈ l := by
  induction l with
  | nil => simp [insertPanel]
  | cons y rest ih =>
    unfold insertPanel
    split
    · simp only [List.mem_cons]
      rintro (h | h | h) <;> simp [h]
    · split
      · simp only [List.mem_cons]
        rintro (h | h) <;> simp [h]
      · simp only [List.mem_cons]
        rintro (h | h)
        · exact .inr (.inl h)
        · exact (ih h).imp_right .inr

/-- Inserting a panel of a name not shown adds it and keeps the others. -/
theorem mem_insertPanel_of_fresh (hn : ∀ qs, (n, qs) ∉ l) {x : String × List String} :
    x ∈ insertPanel n ps l ↔ x = (n, ps) ∨ x ∈ l := by
  induction l with
  | nil => simp [insertPanel]
  | cons y rest ih =>
    have hy : n ≠ y.1 := fun h => hn y.2 (h ▸ List.mem_cons_self)
    have ih' := ih fun qs h => hn qs (List.mem_cons_of_mem _ h)
    unfold insertPanel
    by_cases hlt : n < y.1
    · simp [hlt]
    · simp only [hlt, if_false, hy, List.mem_cons, ih']
      tauto

theorem insertPanel_sorted (hs : l.Pairwise fun a b => a.1 < b.1) :
    (insertPanel n ps l).Pairwise fun a b => a.1 < b.1 := by
  induction l with
  | nil => simp [insertPanel]
  | cons y rest ih =>
    have hy := (List.pairwise_cons.mp hs).1
    unfold insertPanel
    split
    · rename_i hlt
      refine List.pairwise_cons.mpr ⟨fun z hz => ?_, hs⟩
      rcases List.mem_cons.mp hz with rfl | hz
      · exact hlt
      · exact hlt.trans (hy z hz)
    · split
      · rename_i heq
        exact List.pairwise_cons.mpr ⟨fun z hz => heq ▸ hy z hz, (List.pairwise_cons.mp hs).2⟩
      · rename_i hlt heq
        -- the new panel goes after this one
        have hgt : y.1 < n := lt_of_le_of_ne (not_lt.mp hlt) (Ne.symm heq)
        refine List.pairwise_cons.mpr ⟨fun z hz => ?_, ih (List.pairwise_cons.mp hs).2⟩
        rcases mem_insertPanel_of_mem hz with rfl | hz
        · exact hgt
        · exact hy z hz

theorem PanelsWellFormed.insertPanel (hw : PanelsWellFormed l)
    (hps : ∀ p ∈ ps, ∃ q, TopicPattern.parse p = .ok q) : PanelsWellFormed (insertPanel n ps l) where
  sorted := insertPanel_sorted hw.sorted
  read x hx := by
    rcases mem_insertPanel_of_mem hx with rfl | hx
    · exact hps
    · exact hw.read x hx

theorem PanelsWellFormed.filter (hw : PanelsWellFormed l) (f : String × List String → Bool) :
    PanelsWellFormed (l.filter f) :=
  ⟨hw.sorted.sublist List.filter_sublist, fun x hx => hw.read x (List.mem_filter.mp hx).1⟩

/-- Among panels in name order, a name shows one list of patterns. -/
theorem PanelsWellFormed.eq_of_mem (hw : PanelsWellFormed l) {qs : List String}
    (h₁ : (n, ps) ∈ l) (h₂ : (n, qs) ∈ l) : ps = qs := by
  have hnd : (l.map (·.1)).Nodup := List.pairwise_map.mpr (hw.sorted.imp ne_of_lt)
  exact congrArg Prod.snd (List.inj_on_of_nodup_map hnd h₁ h₂ rfl)

theorem PanelsWellFormed.lookup_eq_some_iff (hw : PanelsWellFormed l) :
    l.lookup n = some ps ↔ (n, ps) ∈ l := by
  constructor
  · intro hl
    obtain ⟨l₁, l₂, rfl, -⟩ := List.lookup_eq_some_iff.mp hl
    exact List.mem_append_right _ List.mem_cons_self
  · intro hm
    cases hl : l.lookup n with
    | none =>
      have := List.lookup_eq_none_iff.mp hl _ hm
      simp at this
    | some qs =>
      obtain ⟨l₁, l₂, rfl, -⟩ := List.lookup_eq_some_iff.mp hl
      rw [hw.eq_of_mem hm (List.mem_append_right _ List.mem_cons_self)]

end PanelList

/-! ## Steps that leave the panels alone -/

/-- What the panels depend on of an entry: its descriptor and its state. -/
def entryView (e : PluginEntry) : PluginDescriptor × Lifecycle := (e.descriptor, e.state)

/-- A step that keeps the active panels and every entry's descriptor and state. -/
structure KeepsPanels (h h' : Host) : Prop where
  panels : h'.panels = h.panels
  view : h'.registry.entries.map entryView = h.registry.entries.map entryView

namespace KeepsPanels

variable {h h' h'' : Host}

theorem refl (h : Host) : KeepsPanels h h := ⟨rfl, rfl⟩

theorem trans (ha : KeepsPanels h h') (hb : KeepsPanels h' h'') : KeepsPanels h h'' :=
  ⟨hb.panels.trans ha.panels, hb.view.trans ha.view⟩

/-- What holds of some entry's descriptor and state holds of some entry after. -/
theorem exists_entry_iff (ha : KeepsPanels h h') (P : PluginDescriptor → Lifecycle → Prop) :
    (∃ e ∈ h'.registry.entries, P e.descriptor e.state) ↔
      ∃ e ∈ h.registry.entries, P e.descriptor e.state := by
  have key : ∀ {l₁ l₂ : List PluginEntry}, l₁.map entryView = l₂.map entryView →
      (∃ e ∈ l₁, P e.descriptor e.state) → ∃ e ∈ l₂, P e.descriptor e.state := by
    rintro l₁ l₂ hv ⟨e, he, hp⟩
    obtain ⟨e₀, he₀, hv₀⟩ := List.mem_map.mp (hv ▸ List.mem_map_of_mem (f := entryView) he)
    simp only [entryView, Prod.mk.injEq] at hv₀
    exact ⟨e₀, he₀, hv₀.1 ▸ hv₀.2 ▸ hp⟩
  exact ⟨key ha.view, key ha.view.symm⟩

end KeepsPanels

section Keeping

variable (h : Host)

theorem keepsPanels_of_frame {h' : Host} (hr : h'.registry = h.registry) (hp : h'.panels = h.panels) :
    KeepsPanels h h' :=
  ⟨hp, by rw [hr]⟩

theorem keepsPanels_modify (n : String) {f : PluginEntry → PluginEntry}
    (hf : ∀ e, entryView (f e) = entryView e) :
    KeepsPanels h { h with registry := h.registry.modify n f } := by
  refine ⟨rfl, ?_⟩
  simp only [PluginRegistry.modify, List.map_map]
  refine List.map_congr_left fun e _ => ?_
  simp only [Function.comp_apply]
  split <;> simp [hf]

theorem keepsPanels_pluginSubscribe {d : PluginDescriptor} {pattern : String} {h' : Host}
    (hs : h.pluginSubscribe d pattern = .ok h') : KeepsPanels h h' := by
  obtain ⟨p, -, -, rfl⟩ := (pluginSubscribe_eq_ok_iff h d pattern h').mp hs
  have hsub : KeepsPanels h (h.subscribeWith p (some ⟨d.name⟩) (.plugin d.name)).2 :=
    keepsPanels_of_frame h rfl rfl
  exact hsub.trans (keepsPanels_modify _ d.name (by intro; rfl))

theorem keepsPanels_probeSubscribes (d : PluginDescriptor) (ps : List String) {h' : Host}
    (hs : probeSubscribes d h ps = .ok h') : KeepsPanels h h' := by
  induction ps generalizing h with
  | nil =>
    cases hs
    exact KeepsPanels.refl _
  | cons p rest ih =>
    simp only [probeSubscribes, bind, Except.bind] at hs
    split at hs
    · cases hs
    · rename_i h₁ hsub
      exact (keepsPanels_pluginSubscribe h hsub).trans (ih h₁ hs)

theorem keepsPanels_probePublishes (name : String) (cs : List CommandDraft) :
    KeepsPanels h (probePublishes name h cs).1 := by
  induction cs generalizing h with
  | nil => exact KeepsPanels.refl _
  | cons c rest ih =>
    -- screening and sending a command touches neither the registry nor the panels
    have hd : KeepsPanels h (h.pluginPublish name c).2 := by
      unfold pluginPublish dispatch
      split
      · exact keepsPanels_of_frame h rfl rfl
      · split <;> exact keepsPanels_of_frame h rfl rfl
    rcases hr : h.pluginPublish name c with ⟨_ | ⟨⟩, h₁⟩ <;> rw [hr] at hd <;>
      simp only [probePublishes, hr]
    · exact hd
    · exact hd.trans (ih h₁)

theorem keepsPanels_notes (n : String) (lines : List String) :
    KeepsPanels h (lines.foldl (fun h l => { h with registry := h.registry.note n l }) h) := by
  induction lines generalizing h with
  | nil => exact KeepsPanels.refl _
  | cons l rest ih => exact (keepsPanels_modify h n (by intro; rfl)).trans (ih _)

/-- A probe's activation keeps the panels and every entry's state. -/
theorem keepsPanels_activateProbe (d : PluginDescriptor) (script : ProbeScript) :
    KeepsPanels h (h.activateProbe d script).1 := by
  unfold activateProbe
  dsimp only
  split
  · exact keepsPanels_notes h d.name _
  · rename_i h₂ hs
    have hk₂ := (keepsPanels_notes h d.name _).trans (keepsPanels_probeSubscribes _ d _ hs)
    have hk₃ := keepsPanels_probePublishes h₂ d.name script.publish
    split
    · rename_i h₃ e hp
      rw [hp] at hk₃
      exact hk₂.trans hk₃
    · rename_i h₃ hp
      rw [hp] at hk₃
      exact (hk₂.trans hk₃).trans
        ((keepsPanels_modify h₃ d.name (by intro; rfl)).trans (keepsPanels_of_frame _ rfl rfl))

theorem keepsPanels_releaseSubscriptions (n : String) : KeepsPanels h (h.releaseSubscriptions n) := by
  refine ⟨by simp [releaseSubscriptions, foldl_unsubscribe_panels], ?_⟩
  rw [releaseSubscriptions_registry]
  exact (keepsPanels_modify h n (by intro; rfl)).view

end Keeping

/-! ## The active panels agree with the registry -/

/-- The panels shown under a name are those of an active panel plugin of that name. -/
def PanelAgrees (h : Host) (n : String) : Prop :=
  ∀ ps, (n, ps) ∈ h.panels ↔ ∃ e ∈ h.registry.entries,
    e.descriptor.name = n ∧ e.state = .active ∧ e.descriptor.behaviour = .panel ps

theorem KeepsPanels.panelAgrees_iff {h h' : Host} (ha : KeepsPanels h h') (n : String) :
    h'.PanelAgrees n ↔ h.PanelAgrees n := by
  unfold PanelAgrees
  rw [ha.panels]
  exact forall_congr' fun ps => iff_congr Iff.rfl
    (ha.exists_entry_iff fun d st => d.name = n ∧ st = .active ∧ d.behaviour = .panel ps)

/-- An entry after a step that keeps the panels has the descriptor of an entry before. -/
theorem KeepsPanels.descriptor_mem {h h' : Host} (ha : KeepsPanels h h') {e : PluginEntry}
    (he : e ∈ h'.registry.entries) : ∃ e₀ ∈ h.registry.entries, e₀.descriptor = e.descriptor := by
  obtain ⟨e₀, he₀, hd, -⟩ :=
    (ha.exists_entry_iff fun d st => d = e.descriptor ∧ st = e.state).mp ⟨e, he, rfl, rfl⟩
  exact ⟨e₀, he₀, hd⟩

/-- A step for other plugins keeps what a name's panels agree with. -/
theorem ActsOn.panelAgrees {ns : List String} {h h' : Host} {n : String} (ha : ActsOn ns h h')
    (hn : n ∉ ns) (hag : h.PanelAgrees n) : h'.PanelAgrees n := by
  intro ps
  rw [ha.panels (n, ps) hn, hag ps]
  constructor
  · rintro ⟨e, he, hname, hrest⟩
    exact ⟨e, ha.mem_of_not_mem he (hname ▸ hn), hname, hrest⟩
  · rintro ⟨e, he, hname, hrest⟩
    exact ⟨e, ha.mem_of_not_mem' he (hname ▸ hn), hname, hrest⟩

/-- A plugin's own part of activation either keeps the panels and the entries, and then
succeeds only for a probe, or shows the panel of a panel plugin whose patterns all read. -/
theorem activationWork_cases (h : Host) (d : PluginDescriptor) :
    (KeepsPanels h (h.activationWork d).1 ∧
      ((h.activationWork d).2 = none → ∀ ps, d.behaviour ≠ .panel ps)) ∨
    ∃ ps, d.behaviour = .panel ps ∧ (∀ p ∈ ps, ∃ q, TopicPattern.parse p = .ok q) ∧
      h.activationWork d = ({ h with panels := insertPanel d.name ps h.panels }, none) := by
  unfold activationWork
  split
  · rename_i ps hb
    unfold activatePanel
    split
    · exact .inl ⟨KeepsPanels.refl h, fun hn => nomatch hn⟩
    · rename_i hf
      refine .inr ⟨ps, hb, fun p hp => ?_, rfl⟩
      have hp' := List.findSome?_eq_none_iff.mp hf p hp
      unfold cachedFor at hp'
      cases hq : TopicPattern.parse p with
      | error e => simp [hq] at hp'
      | ok q => exact ⟨q, rfl⟩
  · rename_i script hb
    exact .inl ⟨keepsPanels_activateProbe h d script, fun _ _ hn => nomatch hb.symm.trans hn⟩

/-- Activating a registered plugin that is not active shows its panel exactly when it is a
panel plugin that became active. -/
theorem panelAgrees_activateEntry (h : Host) (d : PluginDescriptor) (hnd : h.registry.names.Nodup)
    (hd : d ∈ h.registry.descriptors)
    (hoff : ∀ e ∈ h.registry.entries, e.descriptor.name = d.name → e.state ≠ .active)
    (hag : h.PanelAgrees d.name) : (h.activateEntry d).PanelAgrees d.name := by
  -- an inactive plugin shows no panel
  have hfresh : ∀ qs, (d.name, qs) ∉ h.panels := fun qs hm => by
    obtain ⟨e, he, hn, ha, -⟩ := (hag qs).mp hm
    exact hoff e he hn ha
  obtain ⟨e₀, he₀, rfl⟩ := List.mem_map.mp hd
  have hdesc : ∀ e ∈ h.registry.entries, e.descriptor.name = e₀.descriptor.name →
      e.descriptor = e₀.descriptor := fun e he hn =>
    congrArg _ (PluginRegistry.eq_of_name_eq hnd he he₀ hn)
  rw [activateEntry_eq]
  rcases activationWork_cases h e₀.descriptor with ⟨hk, hnp⟩ | ⟨ps₀, hb, -, hw⟩
  · generalize h.activationWork e₀.descriptor = r at hk hnp
    obtain ⟨h₁, f⟩ := r
    dsimp only at hk hnp
    intro ps
    refine iff_of_false (fun hm => hfresh ps ?_) ?_
    · cases f <;>
        simpa [finishActivation, releaseSubscriptions, foldl_unsubscribe_panels, hk.panels] using hm
    · rintro ⟨e, he, hname, hact, hbeh⟩
      cases f with
      | some err =>
        obtain ⟨e₁, -, rfl⟩ := PluginRegistry.mem_modify he hname
        cases hact
      | none =>
        -- the plugin became active, so it is no panel plugin
        obtain ⟨e₁, he₁, rfl⟩ := PluginRegistry.mem_modify he hname
        obtain ⟨e₂, he₂, hd₂⟩ := hk.descriptor_mem he₁
        have hd₀ := hdesc e₂ he₂ ((congrArg PluginDescriptor.name hd₂).trans hname)
        exact hnp rfl ps (hd₀ ▸ hd₂ ▸ hbeh)
  · rw [hw]
    intro ps
    show (e₀.descriptor.name, ps) ∈ insertPanel e₀.descriptor.name ps₀ h.panels ↔ _
    rw [mem_insertPanel_of_fresh hfresh]
    constructor
    · rintro (heq | hm)
      · obtain rfl : ps = ps₀ := (Prod.mk.inj heq).2
        exact ⟨{ e₀ with state := .active }, List.mem_map.mpr ⟨e₀, he₀, by simp⟩, rfl, rfl, hb⟩
      · exact absurd hm (hfresh ps)
    · rintro ⟨e, he, hname, -, hbeh⟩
      obtain ⟨e₁, he₁, rfl⟩ := PluginRegistry.mem_modify he hname
      have hd₁ := hdesc e₁ he₁ hname
      have hps : PluginBehaviour.panel ps₀ = .panel ps := hb.symm.trans (hd₁ ▸ hbeh)
      cases hps
      exact .inl rfl

/-- Deactivating a plugin leaves it inactive and showing no panel. -/
theorem panelAgrees_deactivateEntry (h : Host) (e : PluginEntry) (hnd : h.registry.names.Nodup)
    (hd : e.descriptor ∈ h.registry.descriptors) (hag : h.PanelAgrees e.descriptor.name) :
    (h.deactivateEntry e).PanelAgrees e.descriptor.name ∧
      ∀ e' ∈ (h.deactivateEntry e).registry.entries, e'.descriptor.name = e.descriptor.name →
        e'.state ≠ .active := by
  obtain ⟨e₀, he₀, hde⟩ := List.mem_map.mp hd
  have hdesc : ∀ e' ∈ h.registry.entries, e'.descriptor.name = e.descriptor.name →
      e'.descriptor = e.descriptor := fun e' he' hn =>
    hde ▸ congrArg _ (PluginRegistry.eq_of_name_eq hnd he' he₀ (hn.trans (hde ▸ rfl)))
  unfold deactivateEntry
  by_cases hact : (h.registry.stateOf? e.descriptor.name == some .active) = true
  · simp only [hact, if_true]
    have hoff : ∀ e' ∈ ((h.stopPlugin e.descriptor).releaseSubscriptions e.descriptor.name).registry.modify
        e.descriptor.name (fun e => { e with state := .inactive }) |>.entries,
        e'.descriptor.name = e.descriptor.name → e'.state ≠ .active := by
      intro e' he' hname
      obtain ⟨e₁, -, rfl⟩ := PluginRegistry.mem_modify he' hname
      simp
    refine ⟨fun ps => iff_of_false (fun hm => ?_) fun ⟨e', he', hname, hact', _⟩ => hoff e' he' hname hact',
      hoff⟩
    have hm' : (e.descriptor.name, ps) ∈ (h.stopPlugin e.descriptor).panels := by
      simpa [releaseSubscriptions, foldl_unsubscribe_panels] using hm
    unfold stopPlugin at hm'
    split at hm'
    · simp at hm'
    · -- a probe shows no panel
      rename_i script hb
      obtain ⟨e', he', hname, -, hbeh⟩ := (hag ps).mp hm'
      rw [hdesc e' he' hname, hb] at hbeh
      cases hbeh
  · simp only [hact, Bool.false_eq_true, if_false]
    have hk := keepsPanels_releaseSubscriptions h e.descriptor.name
    refine ⟨(hk.panelAgrees_iff _).mpr hag, fun e' he' hname hact' => ?_⟩
    obtain ⟨e₂, he₂, hd₂, hs₂⟩ :=
      (hk.exists_entry_iff fun d st => d = e'.descriptor ∧ st = e'.state).mp ⟨e', he', rfl, rfl⟩
    have hst := PluginRegistry.stateOf?_of_mem hnd he₂
    rw [hd₂, hname, hs₂, hact'] at hst
    exact hact (by simp [hst])

/-! ## Activating and deactivating every plugin -/

/-- A property every step keeps holds after a fold of them. -/
theorem foldl_keeps {α : Type} {g : Host → α → Host} (P : Host → Prop)
    (hg : ∀ h a, P h → P (g h a)) : ∀ (l : List α) (h : Host), P h → P (l.foldl g h)
  | [], _, hp => hp
  | a :: rest, h, hp => foldl_keeps P hg rest (g h a) (hg h a hp)

theorem panelsWellFormed_activateEntry (h : Host) (d : PluginDescriptor)
    (hw : PanelsWellFormed h.panels) : PanelsWellFormed (h.activateEntry d).panels := by
  rw [activateEntry_eq]
  have hfin : ∀ r, (finishActivation d r).panels = r.1.panels := by
    rintro ⟨h₁, _ | _⟩ <;> simp [finishActivation, releaseSubscriptions, foldl_unsubscribe_panels]
  rw [hfin]
  rcases activationWork_cases h d with ⟨hk, -⟩ | ⟨ps, -, hps, hw'⟩
  · rw [hk.panels]
    exact hw
  · rw [hw']
    exact hw.insertPanel hps

theorem panelsWellFormed_deactivateEntry (h : Host) (e : PluginEntry)
    (hw : PanelsWellFormed h.panels) : PanelsWellFormed (h.deactivateEntry e).panels := by
  unfold deactivateEntry
  by_cases hact : (h.registry.stateOf? e.descriptor.name == some .active) = true
  · simp only [hact, if_true]
    show PanelsWellFormed ((h.stopPlugin e.descriptor).releaseSubscriptions _).panels
    rw [(keepsPanels_releaseSubscriptions _ _).panels]
    unfold stopPlugin
    split
    · exact hw.filter _
    · exact hw
  · simp only [hact, Bool.false_eq_true, if_false]
    rw [(keepsPanels_releaseSubscriptions _ _).panels]
    exact hw

/-- Activation shows exactly the panels of the active panel plugins, when the panels did
before. -/
theorem panelAgrees_activateAll {h : Host} (hnd : h.registry.names.Nodup)
    (hag : ∀ n, h.PanelAgrees n) (n : String) :
    ((inactiveDescriptors h.registry).foldl activateEntry h).PanelAgrees n := by
  have ha : ActsOn ((inactiveDescriptors h.registry).map (·.name)) h
      ((inactiveDescriptors h.registry).foldl activateEntry h) :=
    ActsOn.foldl (·.name) (fun h d => actsOn_activateEntry h d) _ h
  by_cases hn : n ∈ (inactiveDescriptors h.registry).map (·.name)
  · obtain ⟨d, hd, rfl⟩ := List.mem_map.mp hn
    -- before its own step, a plugin to activate is registered, inactive and shows no panel
    refine foldl_establishes (·.name) (fun h d => actsOn_activateEntry h d)
      (fun h d => h.registry.names.Nodup ∧ d ∈ h.registry.descriptors ∧
        (∀ e ∈ h.registry.entries, e.descriptor.name = d.name → e.state ≠ .active) ∧
        h.PanelAgrees d.name) PanelAgrees
      (fun ha _ hn ⟨hnd, hd, hoff, hag⟩ => ⟨ha.names ▸ hnd, ha.descriptors ▸ hd,
        fun e he hname => hoff e (ha.mem_of_not_mem' he (hname ▸ hn)) hname, ha.panelAgrees hn hag⟩)
      (fun ha hn hag => ha.panelAgrees hn hag)
      (fun h d _ ⟨hnd, hd, hoff, hag⟩ => panelAgrees_activateEntry h d hnd hd hoff hag)
      _ h ((inactiveDescriptors_names_sublist _).nodup hnd)
      (fun d hd => (inactiveDescriptors_names_sublist _).subset (List.mem_map_of_mem hd))
      (fun d' hd' => ?_) d hd
    obtain ⟨e, he, rfl⟩ := List.mem_map.mp hd'
    have hst := (List.mem_filter.mp he).2
    refine ⟨hnd, List.mem_map_of_mem (List.mem_filter.mp he).1, fun e' he' hname => ?_, hag _⟩
    rw [PluginRegistry.eq_of_name_eq hnd he' (List.mem_filter.mp he).1 hname]
    simpa using hst
  · exact ha.panelAgrees hn (hag n)

/-- Deactivation leaves no plugin active and no panel shown, when the panels agreed before. -/
theorem panelAgrees_deactivateAll {h : Host} (hnd : h.registry.names.Nodup)
    (hag : ∀ n, h.PanelAgrees n) (n : String) :
    h.deactivateAll.PanelAgrees n ∧
      ∀ e ∈ h.deactivateAll.registry.entries, e.descriptor.name = n → e.state ≠ .active := by
  have ha := actsOn_deactivateAll h
  by_cases hn : n ∈ h.registry.names
  · obtain ⟨e, he, rfl⟩ := List.mem_map.mp hn
    rw [deactivateAll_eq]
    refine foldl_establishes (·.descriptor.name) (fun h e => actsOn_deactivateEntry h e)
      (fun h e => h.registry.names.Nodup ∧ e.descriptor ∈ h.registry.descriptors ∧
        h.PanelAgrees e.descriptor.name)
      (fun h n => h.PanelAgrees n ∧
        ∀ e ∈ h.registry.entries, e.descriptor.name = n → e.state ≠ .active)
      (fun ha _ hn ⟨hnd, hd, hag⟩ => ⟨ha.names ▸ hnd, ha.descriptors ▸ hd, ha.panelAgrees hn hag⟩)
      (fun ha hn ⟨hag, hoff⟩ => ⟨ha.panelAgrees hn hag,
        fun e he hname => hoff e (ha.mem_of_not_mem' he (hname ▸ hn)) hname⟩)
      (fun h e _ ⟨hnd, hd, hag⟩ => panelAgrees_deactivateEntry h e hnd hd hag)
      _ h ?_ ?_ (fun e' he' => ⟨hnd, List.mem_map_of_mem (List.mem_reverse.mp he'), hag _⟩)
      e (List.mem_reverse.mpr he)
    · rw [List.map_reverse, List.nodup_reverse]
      exact hnd
    · intro e' he'
      exact List.mem_map_of_mem (List.mem_reverse.mp he')
  · -- a name not registered has no entry, and its panels are untouched
    refine ⟨ha.panelAgrees (fun h => hn h) (hag n), fun e he hname => absurd ?_ hn⟩
    rw [← ha.names, ← hname]
    exact List.mem_map_of_mem he

/-! ## Along a run -/

/-- What a run keeps of the registry and the panels: a well-formed registry, panels in name
order over patterns that read, and under every name the panels of the active panel plugin
of that name. -/
structure PanelsTrack (h : Host) : Prop where
  wellFormed : h.registry.WellFormed
  panels : PanelsWellFormed h.panels
  agrees : ∀ n, h.PanelAgrees n

theorem PluginsFresh.panelsTrack {h : Host} (hf : h.PluginsFresh) : h.PanelsTrack where
  wellFormed := hf.tracked.wellFormed
  panels := by
    rw [hf.panels]
    exact ⟨List.Pairwise.nil, fun _ hx => nomatch hx⟩
  agrees n ps := by
    rw [hf.panels, hf.registry]
    simp

/-- Deactivation keeps what a run keeps of the registry and the panels. -/
theorem deactivateAll_panelsTrack {h : Host} (ht : h.PanelsTrack) : h.deactivateAll.PanelsTrack :=
  ⟨ht.wellFormed.of_descriptors (actsOn_deactivateAll h).descriptors,
    deactivateAll_eq h ▸ foldl_keeps (fun h => PanelsWellFormed h.panels)
      (fun h e hw => panelsWellFormed_deactivateEntry h e hw) _ h ht.panels,
    fun n => (panelAgrees_deactivateAll ht.wellFormed.names_nodup ht.agrees n).1⟩

theorem registryCall_panelsTrack {h : Host} (ht : h.PanelsTrack) :
    ∀ c, (h.registryCall c).PanelsTrack
  | .register d => by
    simp only [registryCall]
    split
    · rename_i h' hr
      obtain ⟨hnone, rfl⟩ := (registerPlugin_eq_ok_iff h d).mp hr
      refine ⟨ht.wellFormed.register d ((PluginRegistry.register_eq_ok_iff _ _).mpr ⟨hnone, rfl⟩),
        ht.panels, fun n ps => (ht.agrees n ps).trans ⟨?_, ?_⟩⟩
      · rintro ⟨e, he, hrest⟩
        exact ⟨e, List.mem_append_left _ he, hrest⟩
      · -- the new plugin is not active
        rintro ⟨e, he, hname, hact, hb⟩
        rcases List.mem_append.mp he with he | he
        · exact ⟨e, he, hname, hact, hb⟩
        · rw [List.mem_singleton] at he
          subst he
          cases hact
    · exact ht
  | .markStarted => ⟨ht.wellFormed.of_descriptors rfl, ht.panels, ht.agrees⟩
  | .activateAll => by
    simp only [registryCall]
    split
    · rename_i k h' hok
      obtain ⟨-, rfl, -⟩ := (activateAll_eq_ok_iff h).mp hok
      exact ⟨ht.wellFormed.of_descriptors (ActsOn.foldl (·.name)
          (fun h d => actsOn_activateEntry h d) _ h).descriptors,
        foldl_keeps (fun h => PanelsWellFormed h.panels)
          (fun h d hw => panelsWellFormed_activateEntry h d hw) _ h ht.panels,
        panelAgrees_activateAll ht.wellFormed.names_nodup ht.agrees⟩
    · exact ht
  | .deactivateAll => deactivateAll_panelsTrack ht
  | .dispose => by
    simp only [registryCall]
    rw [disposePlugins_eq]
    split
    · exact ht
    · have hdeact := deactivateAll_panelsTrack ht
      refine ⟨hdeact.wellFormed.of_descriptors (by simp [PluginRegistry.descriptors, Function.comp_def]),
        hdeact.panels, fun n ps => iff_of_false (fun hm => ?_) ?_⟩
      · -- deactivation left no panel plugin active, so no panel shown
        obtain ⟨e, he, hname, hact, -⟩ := (hdeact.agrees n ps).mp hm
        exact (panelAgrees_deactivateAll ht.wellFormed.names_nodup ht.agrees n).2 e he hname hact
      · rintro ⟨e, he, -, hact, -⟩
        obtain ⟨e₀, -, rfl⟩ := List.mem_map.mp he
        cases hact

/-- Registry calls leave the bus cache alone. -/
theorem registryCall_cache (h : Host) : ∀ c, (h.registryCall c).fanout.cache = h.fanout.cache
  | .register d => by
    simp only [registryCall]
    split
    · rename_i h' hr
      obtain ⟨-, rfl⟩ := (registerPlugin_eq_ok_iff h d).mp hr
      rfl
    · rfl
  | .markStarted => rfl
  | .activateAll => by
    simp only [registryCall]
    split
    · rename_i k h' hok
      exact congrArg Outward.cache (activateAll_outward h hok)
    · rfl
  | .deactivateAll => congrArg Outward.cache (deactivateAll_outward h)
  | .dispose => congrArg Outward.cache (disposePlugins_outward h)

end Host

/-- Every bus operation keeps one cached value per topic, in topic order. -/
theorem TopicSorted.deliver {f : Fanout} (hs : TopicSorted f.cache.entries) (epoch : Nat)
    (e : TelemetryEvent) : TopicSorted (f.deliver epoch e).2.2.cache.entries := by
  rw [Fanout.deliver_cache]
  by_cases hf : f.cache.admission epoch e = .fresh
  · rw [LastValueCache.accept_fresh hf]
    exact upsertEvent_sorted e hs
  · rw [LastValueCache.accept_refused hf]
    exact hs

theorem TopicSorted.apply {f : Fanout} (hs : TopicSorted f.cache.entries) :
    ∀ op, TopicSorted (f.apply op).cache.entries
  | .deliver epoch e => hs.deliver epoch e
  | .emit topic _ _ => TopicSorted.deliver (f := f.countEmit topic) hs _ _
  | .subscribe _ _ _ => hs
  | .unsubscribe _ => hs
  | .resetSession => List.Pairwise.nil

/-- A step of a run over the host: a registry call, or an operation on the bus. -/
inductive PanelStep where
  | registry (c : RegistryCall)
  | bus (op : BusOp)

namespace Host

/-- Carries out a step: a registry call, or an operation on the bus, which leaves the
registry and the panels alone. -/
def panelStep (h : Host) : PanelStep → Host
  | .registry c => h.registryCall c
  | .bus op => { h with fanout := h.fanout.apply op }

/-- Steps one after the other. -/
def panelRun (h : Host) (steps : List PanelStep) : Host := steps.foldl panelStep h

/-- Every step keeps what a run keeps of the panels, and one cached value per topic. -/
theorem panelStep_track {h : Host} (ht : h.PanelsTrack ∧ TopicSorted h.fanout.cache.entries) :
    ∀ s, (h.panelStep s).PanelsTrack ∧ TopicSorted (h.panelStep s).fanout.cache.entries
  | .registry c => ⟨registryCall_panelsTrack ht.1 c, (registryCall_cache h c).symm ▸ ht.2⟩
  | .bus op => ⟨⟨ht.1.wellFormed, ht.1.panels, ht.1.agrees⟩, ht.2.apply op⟩

theorem panelRun_track {h : Host} (ht : h.PanelsTrack ∧ TopicSorted h.fanout.cache.entries)
    (steps : List PanelStep) :
    (h.panelRun steps).PanelsTrack ∧ TopicSorted (h.panelRun steps).fanout.cache.entries :=
  foldl_keeps (fun h => h.PanelsTrack ∧ TopicSorted h.fanout.cache.entries)
    (fun _ s ht => panelStep_track ht s) steps h ht

/-- Patterns that all read are the readings of a list of patterns. -/
theorem exists_parsed : ∀ {ps : List String}, (∀ p ∈ ps, ∃ q, TopicPattern.parse p = .ok q) →
    ∃ qs : List TopicPattern, ps.map TopicPattern.parse = qs.map .ok
  | [], _ => ⟨[], rfl⟩
  | p :: ps, hr => by
    obtain ⟨q, hq⟩ := hr p List.mem_cons_self
    obtain ⟨qs, hqs⟩ := exists_parsed fun p' hp' => hr p' (List.mem_cons_of_mem _ hp')
    exact ⟨q :: qs, by simp [hq, hqs]⟩

/-- On a run, a shown panel's snapshot is the cache's view of its patterns. -/
theorem panelSnapshot_of_track {h : Host} (ht : h.PanelsTrack) (hs : TopicSorted h.fanout.cache.entries)
    {n : String} {ps : List String} (hm : (n, ps) ∈ h.panels) :
    ∃ qs, ps.map TopicPattern.parse = qs.map .ok ∧ h.panelSnapshot n = some (h.cacheView qs) := by
  obtain ⟨qs, hqs⟩ := exists_parsed (ht.panels.read _ hm)
  exact ⟨qs, hqs, panelSnapshot_of_lookup h hs (ht.panels.lookup_eq_some_iff.mpr hm) hqs⟩

theorem panelSnapshot_eq_none_iff {h : Host} (ht : h.PanelsTrack) (n : String) :
    h.panelSnapshot n = none ↔ ∀ ps, (n, ps) ∉ h.panels := by
  rw [panelSnapshot_eq, Option.map_eq_none_iff]
  constructor
  · intro hl ps hm
    rw [ht.panels.lookup_eq_some_iff.mpr hm] at hl
    cases hl
  · intro hn
    cases hl : h.panels.lookup n with
    | none => rfl
    | some ps => exact absurd (ht.panels.lookup_eq_some_iff.mp hl) (hn ps)

end Host

namespace PluginDescriptor

theorem foldl_topic (d : PluginDescriptor) (ps : List String) :
    ps.foldl topic d = { d with topics := d.topics ++ ps } := by
  induction ps generalizing d with
  | nil => simp
  | cons p rest ih =>
    rw [List.foldl_cons, ih]
    simp [topic]

/-- A panel plugin declares exactly the patterns it is built over. -/
theorem panel_behaviour_topics (n : String) (ps : List String) :
    (panel n ps).behaviour = .panel (panel n ps).topics := by
  simp [panel, foldl_topic, new]

end PluginDescriptor

/-- Every built-in plugin is a panel over the topics it declares. -/
theorem builtin_panels_over_topics : ∀ d ∈ builtinPlugins, d.behaviour = .panel d.topics := by
  intro d hd
  simp only [builtinPlugins, List.mem_cons, List.mem_nil_iff, or_false] at hd
  rcases hd with rfl | rfl | rfl | rfl | rfl | rfl | rfl | rfl | rfl | rfl <;>
    exact PluginDescriptor.panel_behaviour_topics _ _

/-! ## Over a whole run -/

/-- Along any run of registry calls and bus operations from a new registry over a cache
with one value per topic, the active panels are, in name order, the active panel plugins
with the patterns of their descriptors.  The snapshot of an active panel plugin is the
cache's view of its patterns, all of which read: every cached topic one of them matches,
with its value, and nothing else.  Any other name has no snapshot, and right after the bus
starts a new session every snapshot is empty.  The built-in plugins are panels over their
declared topics. -/
theorem panels_view_cache {h₀ : Host} (hf : h₀.PluginsFresh) (hc : TopicSorted h₀.fanout.cache.entries)
    (steps : List PanelStep) :
    let h := h₀.panelRun steps
    h.panelNames.Pairwise (· < ·) ∧
    (∀ n ps, (n, ps) ∈ h.panels ↔ ∃ e ∈ h.registry.entries,
      e.descriptor.name = n ∧ e.state = .active ∧ e.descriptor.behaviour = .panel ps) ∧
    (∀ e ∈ h.registry.entries, e.state = .active → ∀ ps, e.descriptor.behaviour = .panel ps →
      ∃ qs, ps.map TopicPattern.parse = qs.map .ok ∧
        h.panelSnapshot e.descriptor.name = some (h.cacheView qs)) ∧
    (∀ n, h.panelSnapshot n = none ↔ ¬∃ e ∈ h.registry.entries,
      e.descriptor.name = n ∧ e.state = .active ∧ ∃ ps, e.descriptor.behaviour = .panel ps) ∧
    (∀ n snap, (h.panelStep (.bus .resetSession)).panelSnapshot n = some snap → snap = []) ∧
    (∀ d ∈ builtinPlugins, d.behaviour = .panel d.topics) := by
  intro h
  obtain ⟨ht, hs⟩ := Host.panelRun_track ⟨hf.panelsTrack, hc⟩ steps
  refine ⟨List.pairwise_map.mpr ht.panels.sorted, ht.agrees,
    fun e he hact ps hb => Host.panelSnapshot_of_track ht hs ((ht.agrees _ ps).mpr ⟨e, he, rfl, hact, hb⟩),
    fun n => ?_, fun n snap hsnap => ?_, builtin_panels_over_topics⟩
  · rw [Host.panelSnapshot_eq_none_iff ht]
    constructor
    · rintro hn ⟨e, he, hname, hact, ps, hb⟩
      exact hn ps ((ht.agrees n ps).mpr ⟨e, he, hname, hact, hb⟩)
    · intro hn ps hm
      obtain ⟨e, he, hname, hact, hb⟩ := (ht.agrees n ps).mp hm
      exact hn ⟨e, he, hname, hact, ps, hb⟩
  · -- a new session empties the cache, and with it every view
    obtain ⟨ht', hs'⟩ := Host.panelStep_track ⟨ht, hs⟩ (.bus .resetSession)
    obtain ⟨ps, hl, -⟩ := Option.map_eq_some_iff.mp ((Host.panelSnapshot_eq _ n).symm.trans hsnap)
    obtain ⟨qs, -, hq⟩ := Host.panelSnapshot_of_track ht' hs' (ht'.panels.lookup_eq_some_iff.mp hl)
    rw [hq] at hsnap
    cases hsnap
    rfl

/-- A host with no plugin registered that registers the WiFi panel, starts and activates
shows its panels in name order, as the run theorem says. -/
theorem wifi_panel_run_sorted :
    ∃ h₀ : Host, h₀.PluginsFresh ∧ TopicSorted h₀.fanout.cache.entries ∧
      (h₀.panelRun [.registry (.register Catalog.wifi), .registry .markStarted,
        .registry .activateAll]).panelNames.Pairwise (· < ·) :=
  let h₀ : Host :=
    { config := {}
      origin := default
      fanout := Fanout.new {} 1
      sessions := { store := { kind := .memory }, expiry := Span.ofMillis 0 }
      joiner := Joiner.silent
      scan := .ok [] }
  have hf : h₀.PluginsFresh := ⟨rfl, rfl, fun _ hs => by simp [h₀, Fanout.new] at hs⟩
  have hc : TopicSorted h₀.fanout.cache.entries := List.Pairwise.nil
  ⟨h₀, hf, hc, (panels_view_cache hf hc _).1⟩

end Tether
