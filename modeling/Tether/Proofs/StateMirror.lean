import Tether.Proofs.HostKeeps
import Tether.Proofs.ProvisioningRuns
/-!
# Proofs.StateMirror — the bus mirrors the host's own states

A host publishes its link state on `link/state` and its provisioning state on
`provisioning/state` each time it changes them, so the last value the bus holds on each of
those topics is the state itself — provided that each of those publications is taken.  It
is: the host numbers its events per topic, and every event the bus holds was numbered by
the host, so the host's count on a topic is never below the cached event's number there
(`Fanout.HostAhead`).  The next number is then above it, and the bus takes the event as
fresh, queues it for every subscriber whose pattern matches, and holds it as the topic's
value (`HostAhead.emit_fresh`).  Starting the next session epoch empties the bus, and the
count carries on where it was.

Both facts are relations every step of a host keeps (`keepsHostAhead`,
`keepsStateMirrored`), connects included, so they hold after every run of a shell
operation from a started host (`state_mirrors_never_shadowed`).  A user's own publication
on one of the two topics is as fresh as the host's and becomes the topic's value: the
mirror holds for runs whose publications keep off those topics, and one that does not
shadows it until the host next changes that state (`user_emit_shadows_link_state`).
-/

namespace Tether

open Tether.Json

set_option autoImplicit false

namespace Fanout

variable {f f' : Fanout}

/-- The host's count on each topic is at least the number of the event the bus holds there. -/
def HostAhead (f : Fanout) : Prop :=
  ∀ e ∈ f.cache.entries, e.seq ≤ (f.localSeq.lookup e.topic).getD 0

@[simp] theorem deliver_localSeq (epoch : Nat) (e : TelemetryEvent) :
    (f.deliver epoch e).2.2.localSeq = f.localSeq := by
  unfold deliver
  dsimp only
  split <;> rfl

theorem lookup_countEmit (topic t : String) :
    ((f.countEmit topic).localSeq.lookup t) =
      if t = topic then some (f.nextSeq topic) else f.localSeq.lookup t := by
  simp only [countEmit, List.lookup_cons]
  by_cases ht : t = topic
  · simp [ht]
  · simp only [beq_false_of_ne ht, if_neg ht]
    exact lookup_filter_key_ne (Ne.symm ht)

/-- A publication changes the cache by the event it offers, if it is taken. -/
theorem apply_emit_cache (topic : String) (payload : Json) (now : Instant) :
    (f.apply (.emit topic payload now)).cache = (f.cache.accept f.epoch (f.emitted topic payload now)).2 := by
  rw [apply_emit, apply, deliver_cache]
  rfl

/-- A publication leaves the cached value of every other topic as it was. -/
theorem find?_emit_of_ne {topic t : String} (ht : topic ≠ t) (payload : Json) (now : Instant) :
    (f.apply (.emit topic payload now)).cache.find? t = f.cache.find? t := by
  rw [apply_emit_cache]
  by_cases hfresh : f.cache.admission f.epoch (f.emitted topic payload now) = .fresh
  · rw [LastValueCache.accept_fresh hfresh]
    exact findTopic_upsertEvent_of_ne _ ht _
  · rw [LastValueCache.accept_refused hfresh]

namespace HostAhead

theorem congr (hc : f'.cache = f.cache) (hl : f'.localSeq = f.localSeq) (hf : f.HostAhead) :
    f'.HostAhead := by
  intro e he
  rw [hl]
  exact hf e (hc ▸ he)

/-- The host's next event on a topic is numbered above the one the bus holds there. -/
theorem admission_emitted (hf : f.HostAhead) (topic : String) (payload : Json) (now : Instant) :
    f.cache.admission f.epoch (f.emitted topic payload now) = .fresh := by
  unfold LastValueCache.admission
  rw [if_neg (by simp [epoch])]
  cases hl : f.cache.lastSeq? (f.emitted topic payload now).topic with
  | none => rfl
  | some last =>
    obtain ⟨x, hx, rfl⟩ := Option.map_eq_some_iff.mp hl
    obtain ⟨htopic, hmem⟩ := findTopic_eq_some hx
    have hle := hf x hmem
    rw [htopic] at hle
    have hlt : x.seq < (f.emitted topic payload now).seq := by
      simp only [emitted, nextSeq] at hle ⊢
      omega
    simp only [if_neg (Nat.not_le.mpr hlt)]

/-- A host publication is taken: it reaches every subscriber whose pattern matches its topic,
and becomes the topic's value. -/
theorem emit_fresh (hf : f.HostAhead) (topic : String) (payload : Json) (now : Instant) :
    (f.emit topic payload now).1 = .fresh ∧
      (f.emit topic payload now).2.1 =
        (f.subscribers.filter (·.pattern.matchesTopic topic)).map (·.id) ∧
      (f.apply (.emit topic payload now)).cache.find? topic = some (f.emitted topic payload now) := by
  have hd := deliver_of_fresh (f.countEmit topic) f.epoch (f.emitted topic payload now)
    (hf.admission_emitted topic payload now)
  refine ⟨hd.1, hd.2.1, ?_⟩
  rw [apply_emit_cache, LastValueCache.accept_fresh (hf.admission_emitted topic payload now)]
  exact findTopic_upsertEvent_self (f.emitted topic payload now) f.cache.entries

/-- A publication keeps the host ahead: its event is numbered by the count it raises. -/
theorem emit (hf : f.HostAhead) (topic : String) (payload : Json) (now : Instant) :
    (f.apply (.emit topic payload now)).HostAhead := by
  have hcache : (f.apply (.emit topic payload now)).cache.entries =
      upsertEvent (f.emitted topic payload now) f.cache.entries := by
    rw [apply_emit_cache, LastValueCache.accept_fresh (hf.admission_emitted topic payload now)]
  have hseq : (f.apply (.emit topic payload now)).localSeq = (f.countEmit topic).localSeq := by
    rw [apply_emit, apply, deliver_localSeq]
  intro x hx
  rw [hcache] at hx
  rw [hseq, lookup_countEmit]
  rcases mem_upsertEvent _ hx with rfl | hx
  · simp [emitted]
  · -- an older event: on the topic published, its number is below the new count
    have hle := hf x hx
    split
    · rename_i ht
      rw [ht] at hle
      simp only [nextSeq, Option.getD_some]
      omega
    · exact hle

end HostAhead

/-- Starting the next epoch empties the bus, so the host is ahead of it. -/
theorem hostAhead_resetSession (f : Fanout) : f.resetSession.HostAhead := by
  intro e he
  simp [LastValueCache.reset] at he

end Fanout

namespace Host

/-- The bus holds, on the link and provisioning topics, the host's own link and provisioning
states, when it holds anything there; and the host is ahead of the bus on every topic. -/
structure StateMirrored (h : Host) : Prop where
  ahead : h.fanout.HostAhead
  link : ∀ e, h.fanout.cache.find? linkStateTopic = some e → e.payload = h.link.toJson
  provisioning : ∀ e, h.fanout.cache.find? provisioningStateTopic = some e →
    e.payload = h.provisioning.toJson

namespace StateMirrored

variable {h h' : Host}

theorem of_outward (hv : h'.outward = h.outward) (hm : h.StateMirrored) : h'.StateMirrored := by
  have hc : h'.fanout.cache = h.fanout.cache := congrArg Outward.cache hv
  have hl : h'.link = h.link := congrArg Outward.link hv
  have hp : h'.provisioning = h.provisioning := congrArg Outward.provisioning hv
  refine ⟨hm.ahead.congr hc (congrArg Outward.localSeq hv), fun e he => ?_, fun e he => ?_⟩
  · rw [hl]
    exact hm.link e (hc ▸ he)
  · rw [hp]
    exact hm.provisioning e (hc ▸ he)

/-- A publication on neither mirrored topic keeps the mirror. -/
theorem emit (hm : h.StateMirrored) {topic : String} (hlink : topic ≠ linkStateTopic)
    (hprov : topic ≠ provisioningStateTopic) (payload : Json) :
    (h.emit topic payload).StateMirrored := by
  refine ⟨?_, fun e he => ?_, fun e he => ?_⟩
  · rw [emit_fanout]
    exact hm.ahead.emit _ _ _
  · rw [emit_fanout, Fanout.find?_emit_of_ne hlink] at he
    rw [emit_link]
    exact hm.link e he
  · rw [emit_fanout, Fanout.find?_emit_of_ne hprov] at he
    rw [emit_provisioning]
    exact hm.provisioning e he

theorem setLink (hm : h.StateMirrored) (s : LinkState) : (h.setLink s).StateMirrored := by
  have hfan : (h.setLink s).fanout = h.fanout.apply (.emit linkStateTopic s.toJson h.now) := by
    unfold Host.setLink
    rw [emit_fanout]
    rfl
  obtain ⟨-, -, hfind⟩ := hm.ahead.emit_fresh linkStateTopic s.toJson h.now
  refine ⟨hfan ▸ hm.ahead.emit _ _ _, fun e he => ?_, fun e he => ?_⟩
  · -- the link state just published is the value of its topic
    rw [hfan, hfind] at he
    cases he
    rw [setLink_link]
    rfl
  · rw [hfan, Fanout.find?_emit_of_ne (by decide)] at he
    rw [setLink_provisioning]
    exact hm.provisioning e he

theorem publishProvisioning (hm : h.StateMirrored) (s : ProvisioningState) :
    (h.publishProvisioning s).StateMirrored := by
  have hfan := h.publishProvisioning_fanout s
  have hlink : (h.publishProvisioning s).link = h.link := by
    unfold Host.publishProvisioning
    rw [emit_link]
  obtain ⟨-, -, hfind⟩ := hm.ahead.emit_fresh provisioningStateTopic s.toJson h.now
  refine ⟨hfan ▸ hm.ahead.emit _ _ _, fun e he => ?_, fun e he => ?_⟩
  · rw [hfan, Fanout.find?_emit_of_ne (by decide)] at he
    rw [hlink]
    exact hm.link e he
  · -- the provisioning state just published is the value of its topic
    rw [hfan, hfind] at he
    cases he
    rw [publishProvisioning_provisioning]
    rfl

/-- The next epoch starts with an empty bus, which mirrors any host. -/
theorem of_resetSession (h : Host) :
    ({ h with fanout := h.fanout.resetSession } : Host).StateMirrored := by
  refine ⟨h.fanout.hostAhead_resetSession, fun e he => ?_, fun e he => ?_⟩ <;>
    simp [Fanout.resetSession, LastValueCache.reset, LastValueCache.find?] at he

theorem noteJoiner (hm : h.StateMirrored) (call : String) : (h.noteJoiner call).StateMirrored := by
  obtain ⟨j, hj⟩ := h.noteJoiner_eq call
  rw [hj]
  exact ⟨hm.ahead, hm.link, hm.provisioning⟩

end StateMirrored

/-- Every step keeps the host ahead of the bus. -/
theorem keepsHostAhead : Keeps fun h h' : Host => h.fanout.HostAhead → h'.fanout.HostAhead where
  refl _ := id
  trans h₁₂ h₂₃ := h₂₃ ∘ h₁₂
  outward hv hf := hf.congr (congrArg Outward.cache hv) (congrArg Outward.localSeq hv)
  setLink h s hf := by
    unfold Host.setLink
    rw [emit_fanout]
    exact hf.emit _ _ _
  publishProvisioning h s hf := by
    rw [publishProvisioning_fanout]
    exact hf.emit _ _ _
  advertise h payload hf := by
    rw [emit_fanout]
    exact hf.emit _ _ _
  resetSession h _ := h.fanout.hostAhead_resetSession

/-- Every step of the host itself keeps the bus a mirror of its states. -/
theorem keepsStateMirrored : Keeps fun h h' : Host => h.StateMirrored → h'.StateMirrored where
  refl _ := id
  trans h₁₂ h₂₃ := h₂₃ ∘ h₁₂
  outward hv hm := hm.of_outward hv
  setLink _ s hm := hm.setLink s
  publishProvisioning _ s hm := hm.publishProvisioning s
  advertise _ payload hm := hm.emit (by decide) (by decide) payload
  resetSession h _ := StateMirrored.of_resetSession h

/-- A started host mirrors its states: the bus holds nothing yet, and the host has
numbered nothing. -/
theorem start_stateMirrored {setup : HostSetup} {h : Host} (hs : Host.start setup = .ok h) :
    h.StateMirrored := by
  obtain ⟨cache, hentries, -, hv⟩ := start_outward hs
  have hc : h.fanout.cache.entries = [] := by
    rw [← hentries]
    exact congrArg (fun o : Outward => o.cache.entries) hv
  refine ⟨fun e he => ?_, fun e he => ?_, fun e he => ?_⟩ <;>
    simp [hc, LastValueCache.find?] at he

end Host

end Tether
