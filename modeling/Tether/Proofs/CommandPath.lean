import Tether.Bus.Commands
import Tether.Host.Workers
/-!
# Proofs.CommandPath — a refused command never reaches the device

A command on its way to the device is screened first (`CommandRules.screen`): a reserved
topic is refused as `reserved` unless the provisioning machine sends it, and otherwise a
topic without a schema, or a payload its schema refuses, is refused as a schema violation.
This module shows that screening is the whole gate:

* the bus refuses as `reserved` exactly the reserved topics its sender may not use, and
  as a schema violation exactly the other commands that no schema of their topic accepts;
* a refusal adds one to the rejected commands and leaves every other part of the bus as it
  was, the transport included;
* the transport sees a command only when it passes, and then fails with `notConnected`
  unless the link is connected and a queue is installed; a queue that is full or has lost
  its reader leaves no entry pending for the command;
* a reply with `ok = false` fails a request as `rejected`, with the device's reason or
  `no reason given`.

The host this library models sends through the same path: its dispatch is the bus's
publish on a transport with no queue installed (`Host.dispatch_eq_publish`), and its
request screens with the same rules and answers as the bus does
(`Host.request_eq_answer`).  The main statement is `refused_commands_never_reach_device`.
-/

namespace Tether

set_option autoImplicit false

/-! ## Screening -/

namespace CommandRules

variable (r : CommandRules) (c : Command) (m : Bool)

theorem screen_of_reserved (h : (!m && r.isReserved c.topic) = true) :
    r.screen c m = .error (.reserved c.topic) := by
  simp [screen, h]

theorem screen_of_unreserved (h : (!m && r.isReserved c.topic) = false) :
    r.screen c m = (r.schemas.validate c.topic c.payload).mapError .schemaViolation := by
  simp only [screen, h, Bool.false_eq_true, if_false]
  cases r.schemas.validate c.topic c.payload <;> rfl

theorem screen_reserved_iff :
    r.screen c m = .error (.reserved c.topic) ↔ (!m && r.isReserved c.topic) = true := by
  cases h : (!m && r.isReserved c.topic)
  · -- the schema can only refuse with a violation
    rw [screen_of_unreserved r c m h]
    cases r.schemas.validate c.topic c.payload with
    | error v =>
      show (Except.error (.schemaViolation v) : Except BusError Unit) = _ ↔ _
      simp
    | ok u =>
      show (Except.ok u : Except BusError Unit) = _ ↔ _
      simp
  · simp [screen_of_reserved r c m h]

theorem screen_schemaViolation_iff (h : (!m && r.isReserved c.topic) = false) (v : SchemaViolation) :
    r.screen c m = .error (.schemaViolation v) ↔ r.schemas.validate c.topic c.payload = .error v := by
  rw [screen_of_unreserved r c m h]
  cases r.schemas.validate c.topic c.payload with
  | error v' =>
    show (Except.error (.schemaViolation v') : Except BusError Unit) = _ ↔ _
    simp
  | ok u =>
    show (Except.ok u : Except BusError Unit) = _ ↔ _
    simp

end CommandRules

/-- A registry refuses a payload for a topic exactly when the topic has no schema or its
schema refuses the payload. -/
theorem SchemaRegistry.validate_error_iff (r : SchemaRegistry) (topic : String) (payload : Json) :
    (∃ v, r.validate topic payload = .error v) ↔
      ∀ s, r.find? topic = some s → ∃ reason, s.validate payload = .error reason := by
  unfold SchemaRegistry.validate
  cases r.find? topic with
  | none => simp
  | some s =>
    cases hs : s.validate payload with
    | error reason => simp [hs]
    | ok u => simp [hs]

/-! ## The transport -/

theorem PendingReplies.remove_insert_self (p : PendingReplies) (id : Uuid) (topic : String)
    (timeoutMs : Nat) (awaited : Bool) (now : Nat) :
    (p.insert id topic timeoutMs awaited now).remove id = p.remove id := by
  simp [PendingReplies.insert, PendingReplies.remove, List.filter_filter]

namespace Transport

variable (t : Transport) (c : Command) (timeoutMs : Nat) (awaited : Bool) (now : Nat)

/-- Without a connected link and a queue, nothing changes. -/
theorem enqueue_of_unlinked (h : ¬(t.state.isConnected = true ∧ t.outbound.isSome = true)) :
    t.enqueue c timeoutMs awaited now = (.error .notConnected, t) := by
  unfold enqueue
  by_cases hs : t.state.isConnected = true
  · have hq : t.outbound = none := by simpa [hs] using h
    simp [hs, hq]
  · simp [hs]

/-- A queue that has lost its reader, or is full, refuses the command and keeps no entry
for it. -/
theorem enqueue_of_refused {q : Outbound} (hs : t.state.isConnected = true)
    (hq : t.outbound = some q) (hr : q.closed = true ∨ q.capacity ≤ q.queued.length) :
    t.enqueue c timeoutMs awaited now =
      (.error (if q.closed then .notConnected else .queueFull),
        { t with pending := t.pending.remove c.id }) := by
  unfold enqueue
  simp only [hs, Bool.not_true, Bool.false_eq_true, if_false, hq,
    PendingReplies.remove_insert_self]
  by_cases hc : q.closed = true
  · simp [hc]
  · have hfull : q.capacity ≤ q.queued.length := hr.resolve_left hc
    simp [hc, hfull]

theorem enqueue_of_accepted {q : Outbound} (hs : t.state.isConnected = true)
    (hq : t.outbound = some q) (hc : q.closed = false) (hl : q.queued.length < q.capacity) :
    t.enqueue c timeoutMs awaited now =
      (.ok (), { t with
        pending := t.pending.insert c.id c.topic timeoutMs awaited now
        outbound := some { q with queued := q.queued ++ [c] } }) := by
  unfold enqueue
  simp [hs, hq, hc, Nat.not_le.mpr hl]

/-- The transport takes a command exactly when the link is connected and its queue has a
reader and room. -/
theorem enqueue_ok_iff :
    (t.enqueue c timeoutMs awaited now).1 = .ok () ↔
      t.state.isConnected = true ∧
        ∃ q, t.outbound = some q ∧ q.closed = false ∧ q.queued.length < q.capacity := by
  by_cases hlink : t.state.isConnected = true ∧ t.outbound.isSome = true
  · obtain ⟨hs, hsome⟩ := hlink
    obtain ⟨q, hq⟩ := Option.isSome_iff_exists.mp hsome
    by_cases hroom : q.closed = false ∧ q.queued.length < q.capacity
    · rw [enqueue_of_accepted t c timeoutMs awaited now hs hq hroom.1 hroom.2]
      exact ⟨fun _ => ⟨hs, q, hq, hroom⟩, fun _ => rfl⟩
    · have hr : q.closed = true ∨ q.capacity ≤ q.queued.length := by
        cases hc : q.closed
        · exact .inr (Nat.not_lt.mp fun hl => hroom ⟨hc, hl⟩)
        · exact .inl rfl
      rw [enqueue_of_refused t c timeoutMs awaited now hs hq hr]
      simp only [reduceCtorEq, false_iff, not_and, not_exists]
      intro _ q' hq' hc hl
      rw [hq] at hq'
      cases hq'
      exact hroom ⟨hc, hl⟩
  · rw [enqueue_of_unlinked t c timeoutMs awaited now hlink]
    simp only [reduceCtorEq, false_iff, not_and, not_exists]
    intro hs q hq _ _
    exact hlink ⟨hs, by simp [hq]⟩

end Transport

/-! ## The bus -/

namespace CommandBus

variable (b : CommandBus) (c : Command) (m : Bool) (now : Nat)

theorem screen_of_error {e : BusError} (h : b.rules.screen c m = .error e) :
    b.screen c m = (.error e, { b with fanout := b.fanout.countRejected }) := by
  simp [screen, h]

theorem screen_of_ok (h : b.rules.screen c m = .ok ()) : b.screen c m = (.ok (), b) := by
  simp [screen, h]

/-- A refused command is counted and goes nowhere. -/
theorem publish_of_refused {e : BusError} (h : b.rules.screen c m = .error e) :
    b.publish c m now = (.error e, { b with fanout := b.fanout.countRejected }) := by
  unfold publish
  rw [screen_of_error b c m h]

theorem request_of_refused {e : BusError} (h : b.rules.screen c false = .error e) :
    b.request c now = (.error e, { b with fanout := b.fanout.countRejected }) := by
  unfold request
  rw [screen_of_error b c false h]

/-- A command that passes goes to the transport, and only there. -/
theorem publish_of_passed (h : b.rules.screen c m = .ok ()) :
    b.publish c m now =
      (((b.transport.send c now).1.mapError .link).map fun _ => c.id,
        { b with transport := (b.transport.send c now).2 }) := by
  unfold publish
  rw [screen_of_ok b c m h]
  dsimp only
  generalize b.transport.send c now = sent
  rcases sent with ⟨_ | _, t⟩ <;> rfl

theorem request_of_passed (h : b.rules.screen c false = .ok ()) :
    b.request c now =
      ((b.transport.request c b.transport.config.replyTimeoutMs now).1.mapError .link,
        { b with transport := (b.transport.request c b.transport.config.replyTimeoutMs now).2 }) := by
  unfold request
  rw [screen_of_ok b c false h]
  dsimp only
  generalize b.transport.request c b.transport.config.replyTimeoutMs now = sent
  rcases sent with ⟨_ | _, t⟩ <;> rfl

/-- Whatever the transport answers is a link error or a success, never a refusal. -/
theorem publish_fst_of_passed (h : b.rules.screen c m = .ok ()) :
    (b.publish c m now).1 = .ok c.id ∨ ∃ e, (b.publish c m now).1 = .error (.link e) := by
  rw [publish_of_passed b c m now h]
  rcases (b.transport.send c now).1 with e | u
  · exact .inr ⟨e, rfl⟩
  · exact .inl rfl

theorem request_fst_of_passed (h : b.rules.screen c false = .ok ()) :
    (b.request c now).1 = .ok () ∨ ∃ e, (b.request c now).1 = .error (.link e) := by
  rw [request_of_passed b c now h]
  rcases (b.transport.request c b.transport.config.replyTimeoutMs now).1 with e | u
  · exact .inr ⟨e, rfl⟩
  · exact .inl rfl

/-- The bus's answer is the screen's refusal when there is one. -/
theorem publish_error_of_screen {e : BusError} (hlink : ∀ l, e ≠ .link l) :
    (b.publish c m now).1 = .error e ↔ b.rules.screen c m = .error e := by
  cases h : b.rules.screen c m with
  | error e' =>
    rw [publish_of_refused b c m now h]
    simp
  | ok u =>
    rcases publish_fst_of_passed b c m now h with hp | ⟨l, hp⟩
    · simp [hp]
    · rw [hp]
      simp only [Except.error.injEq, reduceCtorEq, iff_false]
      exact fun heq => hlink l heq.symm

theorem request_error_of_screen {e : BusError} (hlink : ∀ l, e ≠ .link l) :
    (b.request c now).1 = .error e ↔ b.rules.screen c false = .error e := by
  cases h : b.rules.screen c false with
  | error e' =>
    rw [request_of_refused b c now h]
  | ok u =>
    rcases request_fst_of_passed b c now h with hp | ⟨l, hp⟩
    · simp [hp]
    · rw [hp]
      simp only [Except.error.injEq, reduceCtorEq, iff_false]
      exact fun heq => hlink l heq.symm

/-- Only a command that passes the screen reaches the transport. -/
theorem publish_transport :
    (b.publish c m now).2.transport =
      if (b.rules.screen c m).isOk then (b.transport.send c now).2 else b.transport := by
  cases h : b.rules.screen c m with
  | error e => rw [publish_of_refused b c m now h]; rfl
  | ok u => rw [publish_of_passed b c m now h]; rfl

theorem request_transport :
    (b.request c now).2.transport =
      if (b.rules.screen c false).isOk then
        (b.transport.request c b.transport.config.replyTimeoutMs now).2
      else b.transport := by
  cases h : b.rules.screen c false with
  | error e => rw [request_of_refused b c now h]; rfl
  | ok u => rw [request_of_passed b c now h]; rfl

/-- A reply the device gives is a result unless it says `ok = false`, which fails the
request with the device's reason or `no reason given`. -/
theorem answer_rejected_iff (r : Reply) (reason : String) :
    answer c (.ok r) = .error (.rejected c.topic reason) ↔
      r.ok = false ∧ reason = r.error.getD "no reason given" := by
  unfold answer
  cases hr : r.ok
  · simp only [hr, Bool.false_eq_true, if_false, Except.error.injEq, BusError.rejected.injEq,
      true_and]
    exact eq_comm
  · simp [hr]

end CommandBus

theorem Fanout.countRejected_rejectedCommands (f : Fanout) :
    f.countRejected.counters.rejectedCommands = f.counters.rejectedCommands + 1 := rfl

/-! ## The host's command path -/

namespace Host

/-- The command path of a host: its rules and fan-out, and a transport in the host's link
state with no queue installed. -/
def commandBus (h : Host) : CommandBus :=
  { rules := h.rules, fanout := h.fanout,
    transport := { config := h.config.transport, state := h.link } }

theorem commandBus_send (h : Host) (c : Command) (now : Nat) :
    h.commandBus.transport.send c now = (.error .notConnected, h.commandBus.transport) :=
  Transport.enqueue_of_unlinked _ c _ false now (by simp [commandBus])

/-- The host dispatches a command as the bus publishes it, with no queue to take it. -/
theorem dispatch_eq_publish (h : Host) (c : Command) (m : Bool) (now : Nat) :
    h.dispatch c m = ((h.commandBus.publish c m now).1.map fun _ => (),
      { h with fanout := (h.commandBus.publish c m now).2.fanout }) := by
  cases hs : h.rules.screen c m with
  | error e =>
    rw [CommandBus.publish_of_refused h.commandBus c m now hs]
    unfold dispatch
    rw [hs]
    rfl
  | ok u =>
    -- the host's own send is the transport's, which has no queue to take the command
    rw [CommandBus.publish_of_passed h.commandBus c m now hs, commandBus_send]
    unfold dispatch
    rw [hs]
    rfl

/-- The host screens a request as the bus does, and answers what its exchange gives as the
bus answers a reply. -/
theorem request_eq_answer (h : Host) (c : Command) :
    h.request c = ((h.rules.screen c false).bind fun () => CommandBus.answer c (h.exchange c),
      { h with fanout := (h.commandBus.screen c false).2.fanout }) := by
  cases hs : h.rules.screen c false with
  | error e =>
    rw [CommandBus.screen_of_error h.commandBus c false hs]
    unfold request
    rw [hs]
    rfl
  | ok u =>
    rw [CommandBus.screen_of_ok h.commandBus c false hs]
    unfold request
    rw [hs]
    rfl

end Host

/-- **A refused command never reaches the device.**  Publishing (by a sender that may or may
not use reserved topics) and requesting (by one that may not) refuse as `reserved` exactly
the reserved topics the sender may not use, and otherwise as a schema violation exactly the
commands no schema of their topic accepts.  A refusal counts one rejected command and changes
nothing else.  Only a command that passes reaches the transport, which takes it only on a
connected link with a queue that has a reader and room, and keeps no entry for a command its
queue refuses.  A reply with `ok = false` fails a request as `rejected`.  The host's dispatch
and request go the same way. -/
theorem refused_commands_never_reach_device :
    (∀ (b : CommandBus) (c : Command) (m : Bool) (now : Nat),
      ((b.publish c m now).1 = .error (.reserved c.topic) ↔
        (!m && b.rules.isReserved c.topic) = true) ∧
      ((b.request c now).1 = .error (.reserved c.topic) ↔ b.rules.isReserved c.topic = true)) ∧
    (∀ (b : CommandBus) (c : Command) (m : Bool) (now : Nat),
      (!m && b.rules.isReserved c.topic) = false →
      ((∃ v, (b.publish c m now).1 = .error (.schemaViolation v)) ↔
        ∀ s, b.rules.schemas.find? c.topic = some s → ∃ reason, s.validate c.payload = .error reason)) ∧
    (∀ (b : CommandBus) (c : Command) (now : Nat), b.rules.isReserved c.topic = false →
      ((∃ v, (b.request c now).1 = .error (.schemaViolation v)) ↔
        ∀ s, b.rules.schemas.find? c.topic = some s → ∃ reason, s.validate c.payload = .error reason)) ∧
    (∀ (b : CommandBus) (c : Command) (m : Bool) (now : Nat) (e : BusError),
      b.rules.screen c m = .error e →
        b.publish c m now = (.error e, { b with fanout := b.fanout.countRejected })) ∧
    (∀ (b : CommandBus) (c : Command) (now : Nat) (e : BusError), b.rules.screen c false = .error e →
        b.request c now = (.error e, { b with fanout := b.fanout.countRejected })) ∧
    (∀ f : Fanout, f.countRejected.counters.rejectedCommands = f.counters.rejectedCommands + 1) ∧
    (∀ (b : CommandBus) (c : Command) (m : Bool) (now : Nat),
      (b.publish c m now).2.transport =
        if (b.rules.screen c m).isOk then (b.transport.send c now).2 else b.transport) ∧
    (∀ (b : CommandBus) (c : Command) (now : Nat),
      (b.request c now).2.transport =
        if (b.rules.screen c false).isOk then
          (b.transport.request c b.transport.config.replyTimeoutMs now).2
        else b.transport) ∧
    (∀ (t : Transport) (c : Command) (timeoutMs : Nat) (awaited : Bool) (now : Nat),
      ((t.enqueue c timeoutMs awaited now).1 = .ok () ↔
        t.state.isConnected = true ∧
          ∃ q, t.outbound = some q ∧ q.closed = false ∧ q.queued.length < q.capacity) ∧
      (¬(t.state.isConnected = true ∧ t.outbound.isSome = true) →
        t.enqueue c timeoutMs awaited now = (.error .notConnected, t)) ∧
      ∀ q : Outbound, t.state.isConnected = true → t.outbound = some q →
        (q.closed = true ∨ q.capacity ≤ q.queued.length) →
        t.enqueue c timeoutMs awaited now =
          (.error (if q.closed then .notConnected else .queueFull),
            { t with pending := t.pending.remove c.id })) ∧
    (∀ (c : Command) (r : Reply) (reason : String),
      CommandBus.answer c (.ok r) = .error (.rejected c.topic reason) ↔
        r.ok = false ∧ reason = r.error.getD "no reason given") ∧
    (∀ (h : Host) (c : Command) (m : Bool) (now : Nat),
      h.dispatch c m = ((h.commandBus.publish c m now).1.map fun _ => (),
        { h with fanout := (h.commandBus.publish c m now).2.fanout })) ∧
    ∀ (h : Host) (c : Command),
      h.request c = ((h.rules.screen c false).bind fun () => CommandBus.answer c (h.exchange c),
        { h with fanout := (h.commandBus.screen c false).2.fanout }) := by
  refine ⟨fun b c m now => ⟨?_, ?_⟩, fun b c m now hres => ?_, fun b c now hres => ?_,
    fun b c m now e h => CommandBus.publish_of_refused b c m now h,
    fun b c now e h => CommandBus.request_of_refused b c now h,
    Fanout.countRejected_rejectedCommands, CommandBus.publish_transport,
    CommandBus.request_transport, fun t c timeoutMs awaited now => ⟨Transport.enqueue_ok_iff t c
      timeoutMs awaited now, Transport.enqueue_of_unlinked t c timeoutMs awaited now,
      fun q hs hq hr => Transport.enqueue_of_refused t c timeoutMs awaited now hs hq hr⟩,
    fun c r reason => CommandBus.answer_rejected_iff c r reason, Host.dispatch_eq_publish,
    Host.request_eq_answer⟩
  · rw [@CommandBus.publish_error_of_screen b c m now (.reserved c.topic) fun _ => nofun]
    exact CommandRules.screen_reserved_iff b.rules c m
  · rw [@CommandBus.request_error_of_screen b c now (.reserved c.topic) fun _ => nofun]
    simpa using CommandRules.screen_reserved_iff b.rules c false
  -- a schema violation is the screen's, which is the registry's refusal
  · have hbus : ∀ v, (b.publish c m now).1 = .error (.schemaViolation v) ↔
        b.rules.screen c m = .error (.schemaViolation v) :=
      fun v => @CommandBus.publish_error_of_screen b c m now (.schemaViolation v) fun _ => nofun
    simp only [hbus, CommandRules.screen_schemaViolation_iff b.rules c m hres]
    exact SchemaRegistry.validate_error_iff _ _ _
  · have hres' : (!false && b.rules.isReserved c.topic) = false := by simpa using hres
    have hbus : ∀ v, (b.request c now).1 = .error (.schemaViolation v) ↔
        b.rules.screen c false = .error (.schemaViolation v) :=
      fun v => @CommandBus.request_error_of_screen b c now (.schemaViolation v) fun _ => nofun
    simp only [hbus, CommandRules.screen_schemaViolation_iff b.rules c false hres']
    exact SchemaRegistry.validate_error_iff _ _ _

/-- A user's command on a reserved topic is refused as such, counted once, and leaves the
transport as it was. -/
theorem reserved_topic_refused_before_transport :
    let b : CommandBus := { rules := { reserved := ["wifi/connect"] } }
    let c : Command := { id := default, topic := "wifi/connect", payload := .null }
    (b.publish c false 0).1 = .error (.reserved "wifi/connect") ∧
      (b.publish c false 0).2.fanout.counters.rejectedCommands = 1 ∧
      (b.publish c false 0).2.transport = b.transport := by
  intro b c
  obtain ⟨hres, -, -, hrefused, -, hcount, -⟩ := refused_commands_never_reach_device
  have hscreen : b.rules.screen c false = .error (.reserved c.topic) :=
    (CommandRules.screen_reserved_iff b.rules c false).mpr rfl
  refine ⟨(hres b c false 0).1.mpr rfl, ?_, ?_⟩
  · rw [hrefused b c false 0 _ hscreen, hcount]
  · rw [hrefused b c false 0 _ hscreen]

end Tether
