import Tether.Proofs.DriverRounds
import Tether.Proofs.LastSelection
import Tether.Proofs.StateMirror
/-!
# Proofs.SessionReseed — a new session starts provisioning over before its device is heard

A connect whose channel opens (`Host.connectOver`) greets the device and reads up to its hello
(`handshake`): the messages before the hello are pings, pongs and frames that are no hello
(`handshake_eq_ok_iff`), and everything after it stays for the link.  Before handing those on,
the connect starts the next telemetry epoch, makes the device's session active and starts
provisioning over for the endpoint (`Host.reseed`): in AP mode for a portal endpoint, from
unconfigured for a direct one.  The reseed is published on the bus before the link reads
anything.

The link then reads the device's messages with a round of background work after each
(`Host.runLink`).  Every report the device sends after its hello is offered in the session's
epoch, and the driver hears exactly the ones the bus takes: the first on its topic in the
session, or one numbered above the last one taken there (`ProvisioningState.hearReports`).
So what the device reports right after its hello is applied on top of the reseeded state, and
nothing of the connect comes after to overwrite it (`session_reseed_precedes_device_reports`).
A connect that fails for a reason other than cancellation starts provisioning over with no
session, in the unconfigured state.

The driver must listen as it was started (`Host.DriverListens`); the driver started on a host
with no subscriptions does (`Host.DriverListens.startProvisioning`).
-/

namespace Tether

open Tether.Json

set_option autoImplicit false

/-! ## The handshake -/

/-- Whether a frame is a device's hello. -/
def DeviceFrame.isHello : DeviceFrame → Bool
  | .hello _ => true
  | _ => false

/-- Whether the handshake passes a message over on its way to the hello: a ping or a pong, or
a text frame that reads as something other than a hello. -/
def WireMessage.passedOver : WireMessage → Bool
  | .text t => (DeviceFrame.ofText t).toOption.any (!·.isHello)
  | .binary => false
  | .control => true
  | .close => false
  | .failure _ => false

/-- The handshake ends with a hello exactly when the device's messages are messages passed
over, then the hello, then what the channel still holds. -/
theorem handshake_eq_ok_iff {ms rest : List WireMessage} {hello : DeviceHello} :
    handshake ms = .ok (hello, rest) ↔
      ∃ before t, ms = before ++ .text t :: rest ∧ (∀ m ∈ before, m.passedOver = true) ∧
        DeviceFrame.ofText t = .ok (.hello hello) := by
  constructor
  · intro h
    induction ms with
    | nil => simp [handshake] at h
    | cons m ms ih =>
      -- each message is the hello, passed over, or fails the handshake
      cases m with
      | text t =>
        cases hf : DeviceFrame.ofText t with
        | error e => simp [handshake, hf] at h
        | ok f =>
          cases f with
          | hello h' =>
            simp only [handshake, hf, Except.ok.injEq, Prod.mk.injEq] at h
            obtain ⟨rfl, rfl⟩ := h
            exact ⟨[], t, rfl, fun _ hm => by simp at hm, hf⟩
          | event _ | reply _ =>
            simp only [handshake, hf] at h
            obtain ⟨before, t', rfl, hpass, ht⟩ := ih h
            refine ⟨.text t :: before, t', rfl, fun m hm => ?_, ht⟩
            rcases List.mem_cons.mp hm with rfl | hm
            · simp [WireMessage.passedOver, hf, DeviceFrame.isHello, Except.toOption]
            · exact hpass m hm
      | control =>
        simp only [handshake] at h
        obtain ⟨before, t', rfl, hpass, ht⟩ := ih h
        refine ⟨.control :: before, t', rfl, fun m hm => ?_, ht⟩
        rcases List.mem_cons.mp hm with rfl | hm
        · rfl
        · exact hpass m hm
      | binary | close | failure _ => simp [handshake] at h
  · rintro ⟨before, t, rfl, hpass, ht⟩
    induction before with
    | nil => simp [handshake, ht]
    | cons m before ih =>
      have ih' := ih fun x hx => hpass x (List.mem_cons_of_mem m hx)
      have hm := hpass m (List.mem_cons_self ..)
      cases m with
      | text t' =>
        cases hf : DeviceFrame.ofText t' with
        | error e => simp [WireMessage.passedOver, hf, Except.toOption] at hm
        | ok f =>
          cases f with
          | hello _ => simp [WireMessage.passedOver, hf, DeviceFrame.isHello, Except.toOption] at hm
          | event _ | reply _ =>
            simp only [List.cons_append, handshake, hf]
            exact ih'
      | control =>
        simp only [List.cons_append, handshake]
        exact ih'
      | binary | close | failure _ => simp [WireMessage.passedOver] at hm

/-! ## What the driver makes of a session -/

/-- The event of a frame that is one. -/
def DeviceFrame.event? : DeviceFrame → Option EventFrame
  | .event e => some e
  | _ => none

/-- The event a message carries: a text frame that reads as an event. -/
def WireMessage.event? : WireMessage → Option EventFrame
  | .text t => (DeviceFrame.ofText t).toOption.bind DeviceFrame.event?
  | .binary => none
  | .control => none
  | .close => none
  | .failure _ => none

/-- The reports a device sends over its link, in order, up to the message that ends it. -/
def sessionReports : List WireMessage → List EventFrame
  | [] => []
  | m :: rest =>
    if m.endsLink?.isSome then []
    else (m.event?.filter fun e => reportTopics.contains e.topic).toList ++ sessionReports rest

/-- The state the driver reaches from `s` on a session's reports, where `taken` pairs each
topic with the number of the last report the bus took on it: a report numbered above that, or
the first on its topic, is taken and heard; any other is refused.  When a report arrived does
not change what it says (`ProvisioningState.hear_congr`). -/
def ProvisioningState.hearReports (s : ProvisioningState) (taken : List (String × Nat)) :
    List EventFrame → ProvisioningState
  | [] => s
  | e :: rest =>
    if (taken.lookup e.topic).all (· < e.seq) then
      (s.hear (e.received default)).hearReports ((e.topic, e.seq) :: taken) rest
    else s.hearReports taken rest

/-- Where the bus stands for reports in epoch `epoch` once it has taken the reports `taken`
lists last on each topic. -/
def takenMarks (epoch : Nat) (taken : List (String × Nat)) : Nat × List (Option Nat) :=
  (epoch, reportTopics.map fun t => taken.lookup t)

/-! ## The cache -/

namespace LastValueCache

/-- An offer in the cache's epoch is taken exactly when it is numbered above the last one
taken on its topic, or is the first there. -/
theorem admission_fresh_iff (c : LastValueCache) (e : TelemetryEvent) :
    c.admission c.epoch e = .fresh ↔ (c.lastSeq? e.topic).all (· < e.seq) := by
  unfold admission
  rw [if_neg fun h => h rfl]
  cases hl : c.lastSeq? e.topic with
  | none => simp
  | some last =>
    by_cases hle : e.seq ≤ last
    · simp [hle]
    · simp [hle]
      omega

end LastValueCache

namespace Host

variable (h : Host)

/-- A publication on a topic the bus holds nothing of in its epoch becomes the topic's value. -/
theorem emit_find?_self {topic : String} (hn : h.fanout.cache.find? topic = none) (payload : Json) :
    (h.emit topic payload).fanout.cache.find? topic = some (h.fanout.emitted topic payload h.now) := by
  have hf : h.fanout.cache.admission h.fanout.epoch (h.fanout.emitted topic payload h.now) = .fresh := by
    refine (LastValueCache.admission_fresh_iff _ _).mpr ?_
    show ((h.fanout.cache.find? topic).map (·.seq)).all _ = true
    rw [hn]
    rfl
  rw [emit_fanout, Fanout.apply_emit_cache, LastValueCache.accept_fresh hf]
  exact findTopic_upsertEvent_self (h.fanout.emitted topic payload h.now) h.fanout.cache.entries

/-! ## The driver at rest through a connect -/

namespace AtRest

variable {h} {h' : Host} {s : ProvisioningState} {m : Nat × List (Option Nat)}

theorem of_frame (hr : h.AtRest s m) (hs : h'.fanout.subscribers = h.fanout.subscribers)
    (hc : h'.fanout.cache = h.fanout.cache) (hw : h'.workers = h.workers)
    (hp : h'.provisioning = h.provisioning) : h'.AtRest s m where
  listens := hr.listens.congr (by simp only [Fanout.roster, hs]) hw
  idle := hr.idle.congr hs hw
  state := hp.trans hr.state
  marks := (reportMarks_congr hc).trans hr.marks

theorem deliver_of_not_report (hr : h.AtRest s m) {epoch : Nat} {e : TelemetryEvent}
    (he : e.topic ∉ reportTopics) : (h.deliver epoch e).AtRest s m :=
  { hr.deliver_unheard h (.inr he) with marks := (deliver_reportMarks h he).trans hr.marks }

theorem emit (hr : h.AtRest s m) {topic : String} (ht : topic ∉ reportTopics) (payload : Json) :
    (h.emit topic payload).AtRest s m := by
  rw [emit_eq_deliver]
  refine deliver_of_not_report ?_ (show (h.fanout.emitted topic payload h.now).topic ∉ reportTopics from ht)
  exact hr.of_frame rfl rfl rfl rfl

theorem setLink (hr : h.AtRest s m) (l : LinkState) : (h.setLink l).AtRest s m := by
  unfold Host.setLink
  refine emit ?_ (show linkStateTopic ∉ reportTopics by decide) _
  exact hr.of_frame rfl rfl rfl rfl

theorem noteJoiner (hr : h.AtRest s m) (call : String) : (h.noteJoiner call).AtRest s m := by
  obtain ⟨joiner, hj⟩ := h.noteJoiner_eq call
  rw [hj]
  exact hr.of_frame rfl rfl rfl rfl

theorem publishProvisioning (hr : h.AtRest s m) (s' : ProvisioningState) :
    (h.publishProvisioning s').AtRest s' m := by
  unfold Host.publishProvisioning
  have hr' : ({ h with provisioning := s' } : Host).AtRest s' m :=
    ⟨hr.listens.congr rfl rfl, hr.idle.congr rfl rfl, rfl, hr.marks⟩
  exact hr'.emit (show provisioningStateTopic ∉ reportTopics by decide) _

theorem reseed (hr : h.AtRest s m) (ep : Option Endpoint) :
    (h.reseed ep).AtRest (ProvisioningState.seed ep) m :=
  (hr.of_frame rfl rfl rfl rfl : ({ h with joinTimer := none } : Host).AtRest s m).publishProvisioning _

/-- Beginning a session starts the driver over, at rest, in the state the endpoint seeds. -/
theorem beginSession (hr : h.AtRest s m) (ep : Endpoint) (hello : DeviceHello) :
    (h.beginSession ep hello).AtRest (ProvisioningState.seed (some ep)) m :=
  ((hr.of_frame rfl rfl rfl rfl :
    ({ h with sessions := h.sessions.activate hello.deviceId ep h.now } : Host).AtRest s m).reseed
      (some ep)).setLink .connected

/-- The next epoch begins: nothing waits for the driver, and the bus has taken no report. -/
theorem of_resetSession {h₀ : Host} (hl : h.DriverListens) (hf : h₀.fanout = h.fanout.resetSession)
    (hw : h₀.workers = h.workers) : h₀.AtRest h₀.provisioning (takenMarks (h.fanout.cache.epoch + 1) []) where
  listens := hl.congr (by rw [hf, Fanout.resetSession_roster]) hw
  idle := by
    intro id _ _ x hx
    unfold queueOf at hx
    rw [hf] at hx
    cases hfind : h.fanout.resetSession.subscribers.find? (·.id == id) with
    | none =>
      rw [hfind] at hx
      cases hx
    | some sub =>
      rw [hfind, Option.map_some, Option.getD_some,
        Fanout.resetSession_queues _ sub (List.mem_of_find?_eq_some hfind)] at hx
      cases hx
  state := rfl
  marks := by
    unfold reportMarks
    rw [hf]
    rfl

end AtRest

/-- What a connect shows and calls before a session begins: the link state and its
publication, the sessions, the joiner.  The driver stays at rest wherever it was, and the bus
keeps the value of every topic other than the link's. -/
structure ShowsLink (h h' : Host) : Prop where
  rest : ∀ s m, h.AtRest s m → h'.AtRest s m
  others : ∀ t, t ≠ linkStateTopic → h'.fanout.cache.find? t = h.fanout.cache.find? t

namespace ShowsLink

variable {h} {h' h'' : Host}

theorem refl (h : Host) : ShowsLink h h := ⟨fun _ _ hr => hr, fun _ _ => rfl⟩

theorem trans (e₁ : ShowsLink h h') (e₂ : ShowsLink h' h'') : ShowsLink h h'' :=
  ⟨fun s m hr => e₂.rest s m (e₁.rest s m hr), fun t ht => (e₂.others t ht).trans (e₁.others t ht)⟩

theorem setLink (h : Host) (l : LinkState) : ShowsLink h (h.setLink l) := by
  refine ⟨fun _ _ hr => hr.setLink l, fun t ht => ?_⟩
  unfold Host.setLink
  rw [emit_fanout]
  exact Fanout.find?_emit_of_ne (Ne.symm ht) _ _

theorem noteJoiner (h : Host) (call : String) : ShowsLink h (h.noteJoiner call) := by
  obtain ⟨joiner, hj⟩ := h.noteJoiner_eq call
  refine ⟨fun _ _ hr => hr.noteJoiner call, fun t _ => ?_⟩
  rw [hj]

end ShowsLink

theorem joinPortalOver_shows (ep : Endpoint) (join : JoinAnswer) : ShowsLink h (h.joinPortalOver ep join).2 := by
  cases ep with
  | direct _ => exact .refl h
  | captive ssid passphrase _ =>
    have e₁ := (ShowsLink.setLink h .joiningPortal).trans
      (ShowsLink.noteJoiner (h.setLink .joiningPortal) (joinText ssid passphrase))
    cases join with
    | joined => exact e₁
    | failed _ => exact e₁.trans (ShowsLink.noteJoiner _ _)
    | cancelled => exact e₁.trans (ShowsLink.noteJoiner _ _)

theorem openChannelOver_shows (portal : Option String) (channel : ChannelAnswer) :
    ShowsLink h (h.openChannelOver portal channel).2 := by
  have e₁ := ShowsLink.setLink h .connecting
  unfold openChannelOver
  cases channel.greet with
  | ok _ => exact e₁
  | error _ =>
    cases portal with
    | some ssid => exact e₁.trans (ShowsLink.noteJoiner _ _)
    | none => exact e₁

/-! ## A connect that takes the link -/

section Connect

variable {ep : Endpoint} {answers : ConnectAnswers}

/-- A connect that succeeds was not superseded, its channel opened on the device's hello, and
it began the session on a host where the next epoch had begun with only the link shown
since. -/
theorem connectOver_ok (hl : h.DriverListens) {link : SessionLink} {h' : Host}
    (hc : h.connectOver ep answers = (.ok link, h')) :
    ∃ (ms : List WireMessage) (hello : DeviceHello) (h₁ : Host), answers.channel = .opened ms ∧ handshake ms = .ok (hello, link.inbound) ∧
      link.device = hello.deviceId ∧ h' = h₁.beginSession ep hello ∧
      h₁.AtRest h.provisioning (takenMarks link.epoch []) ∧
      h₁.fanout.cache.find? provisioningStateTopic = none := by
  unfold connectOver at hc
  dsimp only at hc
  by_cases hsup : answers.superseded = true
  · rw [if_pos hsup] at hc
    cases hc
  rw [if_neg hsup] at hc
  -- the host once the next epoch has begun
  let h₀ : Host := { h with
    generation := h.generation + 1
    sessions := h.sessions.deactivate
    fanout := h.fanout.resetSession }
  have hr₀ : h₀.AtRest h.provisioning (takenMarks (h.fanout.cache.epoch + 1) []) :=
    AtRest.of_resetSession hl rfl rfl
  split at hc
  · cases hc
  · rename_i hello inbound h₂ hopen
    simp only [Prod.mk.injEq, Except.ok.injEq] at hc
    obtain ⟨rfl, rfl⟩ := hc
    split at hopen
    · rename_i portal h₁ hjoin
      have e₁ := joinPortalOver_shows h₀ ep answers.join
      have e₂ := openChannelOver_shows h₁ portal answers.channel
      rw [hjoin] at e₁
      rw [hopen] at e₂
      unfold openChannelOver at hopen
      cases hch : answers.channel with
      | failed e =>
        rw [hch] at hopen
        cases hopen
      | opened ms =>
        rw [hch] at hopen
        cases hg : handshake ms with
        | error e =>
          simp only [ChannelAnswer.greet, hg] at hopen
          cases hopen
        | ok greeting =>
          simp only [ChannelAnswer.greet, hg, Prod.mk.injEq, Except.ok.injEq] at hopen
          obtain ⟨rfl, rfl⟩ := hopen
          have e := e₁.trans e₂
          exact ⟨ms, hello, _, rfl, hg, rfl, rfl, e.rest _ _ hr₀,
            (e.others _ (by decide)).trans rfl⟩
    · cases hopen

/-- A connect of the shell that succeeds is the connect itself: the attempt leaves nothing
more to do. -/
theorem shellConnectOver_ok {link : SessionLink} {h' : Host}
    (hc : h.shellConnectOver ep answers = (.ok link, h')) : h.connectOver ep answers = (.ok link, h') := by
  unfold shellConnectOver at hc
  cases hco : h.connectOver ep answers with
  | mk r h₁ =>
    rw [hco] at hc
    simp only [Prod.mk.injEq] at hc
    obtain ⟨rfl, rfl⟩ := hc
    rfl

/-- A connect of the shell that fails for a reason other than cancellation starts provisioning
over with no session. -/
theorem shellConnectOver_unconfigured {e : LinkError} {h' : Host}
    (hc : h.shellConnectOver ep answers = (.error e, h')) (he : e ≠ .cancelled) :
    h'.provisioning = .unconfigured := by
  unfold shellConnectOver at hc
  cases hco : h.connectOver ep answers with
  | mk r h₁ =>
    rw [hco] at hc
    simp only [Prod.mk.injEq] at hc
    obtain ⟨rfl, rfl⟩ := hc
    rw [afterAttempt_of_failure h₁ rfl he, reseed_none_provisioning]

end Connect

/-! ## The link -/

section Link

variable (link : SessionLink)

/-- Reading a message marks the device heard from; a text frame that is an event is then
offered in the link's epoch, stamped with the instant it arrived. -/
theorem readMessage_cases (m : WireMessage) :
    (m.event? = none ∧
      h.readMessage link m = { h with sessions := h.sessions.touch link.device h.now }) ∨
    (∃ e, m.event? = some e ∧ h.readMessage link m =
      ({ h with sessions := h.sessions.touch link.device h.now } : Host).deliver link.epoch (e.received h.now)) := by
  unfold readMessage
  cases m with
  | text t =>
    unfold handleFrame
    dsimp only
    cases hf : DeviceFrame.ofText t with
    | error _ => exact .inl ⟨by simp [WireMessage.event?, hf, Except.toOption], rfl⟩
    | ok f =>
      cases f with
      | event e => exact .inr ⟨e, by simp [WireMessage.event?, hf, Except.toOption, DeviceFrame.event?], rfl⟩
      | hello _ => exact .inl ⟨by simp [WireMessage.event?, hf, Except.toOption, DeviceFrame.event?], rfl⟩
      | reply _ => exact .inl ⟨by simp [WireMessage.event?, hf, Except.toOption, DeviceFrame.event?], rfl⟩
  | binary | control | close | failure _ => exact .inl ⟨rfl, rfl⟩

/-- Offering a fresh event moves the bus's mark on its topic to the event's number. -/
theorem deliver_reportMarks_of_fresh {epoch : Nat} {e : TelemetryEvent}
    (hf : h.fanout.cache.admission epoch e = .fresh) {taken : List (String × Nat)}
    (hm : h.reportMarks = takenMarks epoch taken) :
    (h.deliver epoch e).reportMarks = takenMarks epoch ((e.topic, e.seq) :: taken) := by
  unfold takenMarks reportMarks at hm ⊢
  obtain ⟨hep, hseq⟩ := Prod.mk.inj hm
  rw [Prod.mk.injEq]
  refine ⟨by rw [deliver_epoch, hep], List.map_inj_left.mpr fun t ht => ?_⟩
  rw [List.lookup_cons]
  by_cases hte : e.topic = t
  · subst hte
    rw [deliver_fanout, Fanout.deliver_cache, LastValueCache.lastSeq?_accept_self _ hf, beq_self_eq_true]
  · rw [deliver_lastSeq? h epoch e hte, beq_false_of_ne (Ne.symm hte)]
    exact (List.map_inj_left.mp hseq) t ht

/-- Reading one message that does not end the link, then a round of background work: the
driver hears the message's report if the bus takes it, as the spec says, and is at rest where
the bus then stands. -/
theorem AtRest.readMessage_settle {s : ProvisioningState} {taken : List (String × Nat)}
    (hr : h.AtRest s (takenMarks link.epoch taken)) (m : WireMessage) :
    ∃ s' taken', (h.readMessage link m).settle.AtRest s' (takenMarks link.epoch taken') ∧
      ∀ rest, s.hearReports taken ((m.event?.filter fun e => reportTopics.contains e.topic).toList ++ rest) =
        s'.hearReports taken' rest := by
  have hr₀ : ({ h with sessions := h.sessions.touch link.device h.now } : Host).AtRest s
      (takenMarks link.epoch taken) := hr.of_frame rfl rfl rfl rfl
  rcases h.readMessage_cases link m with ⟨he, hread⟩ | ⟨e, he, hread⟩
  · rw [hread, he]
    exact ⟨s, taken, hr₀.settle, fun rest => rfl⟩
  rw [hread, he]
  have hs := hr₀.deliver_settle _ link.epoch (e.received h.now)
  -- the link's epoch is the bus's, and the bus's marks on reports are what the spec took
  have hep : ({ h with sessions := h.sessions.touch link.device h.now } : Host).fanout.cache.epoch = link.epoch :=
    (Prod.mk.inj hr₀.marks).1
  by_cases hrep : e.topic ∈ reportTopics
  · have hfilter : ((some e).filter fun e => reportTopics.contains e.topic) = some e := by
      simp [hrep]
    have hlast : h.fanout.cache.lastSeq? e.topic = taken.lookup e.topic :=
      (List.map_inj_left.mp (Prod.mk.inj hr₀.marks).2) e.topic hrep
    have hiff : h.fanout.cache.admission link.epoch (e.received h.now) = .fresh ↔
        (taken.lookup e.topic).all (· < e.seq) := by
      rw [← hep]
      exact (LastValueCache.admission_fresh_iff _ _).trans (by rw [← hlast]; rfl)
    rw [hfilter]
    by_cases hf : h.fanout.cache.admission link.epoch (e.received h.now) = .fresh
    · rw [if_pos hf] at hs
      refine ⟨s.hear (e.received default), (e.topic, e.seq) :: taken, ?_, fun rest => ?_⟩
      · have hh : s.hear (e.received h.now) = s.hear (e.received default) := ProvisioningState.hear_congr rfl rfl s
        rw [deliver_reportMarks_of_fresh ({ h with sessions := h.sessions.touch link.device h.now } : Host)
          hf hr₀.marks, hh] at hs
        exact hs
      · simp only [Option.toList_some, List.cons_append, List.nil_append, ProvisioningState.hearReports,
          if_pos (hiff.mp hf)]
    · rw [if_neg hf] at hs
      refine ⟨s, taken, ?_, fun rest => ?_⟩
      · -- a refused report leaves the cache, and so the marks
        have hm : (({ h with sessions := h.sessions.touch link.device h.now } : Host).deliver link.epoch
            (e.received h.now)).reportMarks = takenMarks link.epoch taken :=
          (reportMarks_congr (h := ({ h with sessions := h.sessions.touch link.device h.now } : Host))
            (by rw [deliver_fanout, Fanout.deliver_cache, LastValueCache.accept_refused hf])).trans hr₀.marks
        rw [hm] at hs
        exact hs
      · simp only [Option.toList_some, List.cons_append, List.nil_append, ProvisioningState.hearReports,
          if_neg (mt hiff.mpr hf)]
  · have hfilter : ((some e).filter fun e => reportTopics.contains e.topic) = none := by
      simp [hrep]
    rw [hfilter]
    rw [ProvisioningState.hear_of_not_report (e := e.received h.now) hrep, ite_self,
      deliver_reportMarks _ (e := e.received h.now) hrep, hr₀.marks] at hs
    exact ⟨s, taken, hs, fun rest => rfl⟩

end Link

/-- Starting provisioning over publishes the state it starts in, and a bus that held nothing
on the topic holds it. -/
theorem reseed_published (hn : h.fanout.cache.find? provisioningStateTopic = none) (ep : Option Endpoint) :
    ((h.reseed ep).fanout.cache.find? provisioningStateTopic).map (·.payload) =
      some (ProvisioningState.seed ep).toJson := by
  let h₁ : Host := { h with joinTimer := none, provisioning := ProvisioningState.seed ep }
  have hform : h.reseed ep = h₁.emit provisioningStateTopic (ProvisioningState.seed ep).toJson := rfl
  rw [hform, emit_find?_self h₁ hn]
  rfl

/-- Beginning a session publishes the state provisioning starts over in, and the epoch's bus
holds it. -/
theorem beginSession_published (hn : h.fanout.cache.find? provisioningStateTopic = none) (ep : Endpoint)
    (hello : DeviceHello) :
    ((h.beginSession ep hello).fanout.cache.find? provisioningStateTopic).map (·.payload) =
      some (ProvisioningState.seed (some ep)).toJson := by
  unfold beginSession
  rw [(ShowsLink.setLink _ .connected).others provisioningStateTopic (by decide)]
  exact reseed_published { h with sessions := h.sessions.activate hello.deviceId ep h.now } hn (some ep)

/-- A link read to its end from a driver at rest hears the session's reports as the spec
says. -/
theorem AtRest.runLink_provisioning (link : SessionLink) :
    ∀ (ms : List WireMessage) {h : Host} {s : ProvisioningState} {taken : List (String × Nat)},
      h.AtRest s (takenMarks link.epoch taken) →
      (h.runLink link ms).1.provisioning = s.hearReports taken (sessionReports ms) := by
  intro ms
  induction ms with
  | nil => exact fun hr => hr.state
  | cons m rest ih =>
    intro h s taken hr
    cases hend : m.endsLink? with
    | some reason =>
      -- a close or a failure ends the link, and carries no event
      have hnone : m.event? = none := by cases m <;> first | rfl | cases hend
      have hread : (h.readMessage link m).provisioning = h.provisioning := by
        rcases h.readMessage_cases link m with ⟨_, hr'⟩ | ⟨e, he, _⟩
        · rw [hr']
        · rw [hnone] at he
          cases he
      simp only [runLink, sessionReports, hend, Option.isSome_some, if_true, ProvisioningState.hearReports]
      exact hread.trans hr.state
    | none =>
      obtain ⟨s', taken', hr', hspec⟩ := AtRest.readMessage_settle h link hr m
      simp only [runLink, sessionReports, hend, Option.isSome_none, Bool.false_eq_true, if_false]
      rw [hspec]
      exact ih hr'

end Host

/-- The provisioning reseed of a new session comes before anything its device reports.  A
connect of the shell that takes the link read the device's hello first, passing over only
pings, pongs and frames that are no hello; it leaves provisioning started over for the
endpoint, in AP mode for a portal endpoint and unconfigured for a direct one, with that state
published on the bus; and reading the link from there hears every report the device sent
after its hello on top of that state, exactly those the bus takes.  A connect that fails for
a reason other than cancellation leaves provisioning unconfigured. -/
theorem session_reseed_precedes_device_reports (h : Host) (ep : Endpoint) (answers : ConnectAnswers)
    (hl : h.DriverListens) :
    (∀ link h', h.shellConnectOver ep answers = (.ok link, h') →
      (∃ ms before t hello, answers.channel = .opened ms ∧ ms = before ++ .text t :: link.inbound ∧
        (∀ m ∈ before, m.passedOver = true) ∧ DeviceFrame.ofText t = .ok (.hello hello) ∧
        link.device = hello.deviceId) ∧
      h'.provisioning = ProvisioningState.seed (some ep) ∧
      (h'.fanout.cache.find? provisioningStateTopic).map (·.payload) =
        some (ProvisioningState.seed (some ep)).toJson ∧
      (h'.runLink link link.inbound).1.provisioning =
        (ProvisioningState.seed (some ep)).hearReports [] (sessionReports link.inbound)) ∧
    (∀ e h', h.shellConnectOver ep answers = (.error e, h') → e ≠ .cancelled →
      h'.provisioning = .unconfigured) := by
  refine ⟨fun link h' hc => ?_, fun e h' hc he => h.shellConnectOver_unconfigured hc he⟩
  obtain ⟨ms, hello, h₁, hch, hhs, hdev, rfl, hr₁, hn⟩ := h.connectOver_ok hl (h.shellConnectOver_ok hc)
  obtain ⟨before, t, hms, hpass, ht⟩ := handshake_eq_ok_iff.mp hhs
  have hr := hr₁.beginSession ep hello
  exact ⟨⟨ms, before, t, hello, hch, hms, hpass, ht, hdev⟩, hr.state, h₁.beginSession_published hn ep hello,
    Host.AtRest.runLink_provisioning link link.inbound hr⟩

/-- A device reached directly reports its station associated with `home-net` right after its
hello: on a host whose driver was started on an empty bus, provisioning ends joined to that
network. -/
theorem direct_session_joins_reported_network :
    ∃ link h', (Host.startProvisioning {
        config := {}
        origin := default
        fanout := {}
        sessions := { store := { kind := .memory }, expiry := Span.ofMillis 60000 }
        joiner := {}
        scan := .ok [] }).shellConnectOver (.direct "ws://192.168.4.1/ws")
      { channel := .opened [.control, .text "\x7b\"type\":\"hello\",\"deviceId\":\"esp32m-1a2b\"\x7d",
          .text ("\x7b\"type\":\"event\",\"topic\":\"wifi/sta\",\"seq\":1,\"payload\":" ++
            "\x7b\"associated\":true,\"ssid\":\"home-net\",\"ip\":\"192.168.1.20\"\x7d\x7d")] } =
        (.ok link, h') ∧
      (h'.runLink link link.inbound).1.provisioning = .joined "home-net" := by
  generalize hH : Host.startProvisioning _ = h₀
  generalize hE : Endpoint.direct _ = ep
  generalize hA : ConnectAnswers.mk _ _ _ = answers
  have hl : h₀.DriverListens := hH ▸ Host.DriverListens.startProvisioning rfl rfl
  have main := session_reseed_precedes_device_reports h₀ ep answers hl
  -- the connect takes the link, and the spec hears the association
  have hspec : ((h₀.shellConnectOver ep answers).1.toOption.map fun l =>
      (ProvisioningState.seed (some ep)).hearReports [] (sessionReports l.inbound)) = some (.joined "home-net") := by
    subst hH hE hA
    decide +kernel
  cases hc : h₀.shellConnectOver ep answers with
  | mk r h' =>
    rw [hc] at hspec
    cases r with
    | error e => cases hspec
    | ok link =>
      refine ⟨link, h', rfl, ?_⟩
      rw [(main.1 link h' hc).2.2.2]
      exact Option.some.inj hspec

end Tether
