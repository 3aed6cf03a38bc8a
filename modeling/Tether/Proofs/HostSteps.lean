import Tether.Host.Connect
import Tether.Proofs.BusRun
/-!
# Proofs.HostSteps — what connecting and letting go do to the bus and the sessions

A host changes its bus in a few ways only: it publishes its own events (`Host.emit`, and
through it the link state and the provisioning state), adds and removes subscribers, starts
the next session epoch, and lets workers take queued events.  The steps that connect and
let a device go use the first and the third: each starts the next epoch once and
otherwise only publishes.  `Fanout.Publishes f g` says that `g` is `f` after host
publications only.

What moves, step by step: waking workers touches only the line of workers waiting to run
(`wake_eq`); a publication changes the bus by one `emit` and nothing else (`emit_eq`);
showing a link state publishes it and mirrors it into the active session, which stays the
active one (`setLink_publishes`, `setLink_active`); a call to the Wi-Fi joiner is only
recorded (`noteJoiner_eq`).
-/

namespace Tether

open Tether.Json

set_option autoImplicit false

namespace BusOp

/-- Whether an operation is a host publication. -/
def isEmit : BusOp → Bool
  | .emit .. => true
  | _ => false

theorem isReset_of_isEmit {op : BusOp} (h : op.isEmit = true) : op.isReset = false := by
  cases op <;> simp_all [isEmit, isReset]

end BusOp

namespace Fanout

/-- `g` is `f` after host publications only. -/
def Publishes (f g : Fanout) : Prop :=
  ∃ ops : List BusOp, (∀ op ∈ ops, op.isEmit = true) ∧ f.run ops = g

theorem publishes_refl (f : Fanout) : f.Publishes f := ⟨[], by simp, rfl⟩

theorem Publishes.emit {f g : Fanout} (hfg : f.Publishes g) (topic : String) (payload : Json)
    (now : Instant) : f.Publishes (g.apply (.emit topic payload now)) := by
  obtain ⟨ops, hops, rfl⟩ := hfg
  refine ⟨ops ++ [.emit topic payload now], ?_, ?_⟩
  · intro op hop
    rcases List.mem_append.mp hop with hop | hop
    · exact hops op hop
    · rw [List.mem_singleton.mp hop]
      rfl
  · rw [run_append]
    rfl

end Fanout

namespace SessionDirectory

variable (d : SessionDirectory)

@[simp] theorem deactivate_active : d.deactivate.active = none := by
  unfold deactivate
  split
  · assumption
  · rfl

@[simp] theorem close_active : d.close.2.active = none := by
  unfold close
  split
  · assumption
  · rfl

@[simp] theorem setLink_active (id : DeviceId) (link : LinkState) :
    (d.setLink id link).active = d.active := rfl

/-- Expiring sessions clears the active mark exactly when the active session expired. -/
theorem expireStale_active (now : Instant) :
    (d.expireStale now).2.active =
      if d.active.any (d.expireStale now).1.contains then none else d.active := rfl

end SessionDirectory

namespace Host

/-- Steps that only move workers into the line leave the rest of the host as it was. -/
theorem foldl_only_ready {g : Host → Nat → Host}
    (hg : ∀ h id, ∃ ready, g h id = { h with ready }) (ids : List Nat) (h : Host) :
    ∃ ready, ids.foldl g h = { h with ready } := by
  induction ids generalizing h with
  | nil => exact ⟨h.ready, rfl⟩
  | cons id ids ih =>
    obtain ⟨r, hr⟩ := hg h id
    obtain ⟨r', hr'⟩ := ih (g h id)
    refine ⟨r', ?_⟩
    rw [List.foldl_cons, hr', hr]

section Frames

variable (h : Host)

/-- Waking workers changes only the line of workers waiting to run. -/
theorem wake_eq (ids : List Nat) : ∃ ready, h.wake ids = { h with ready } := by
  refine foldl_only_ready (fun h id => ?_) ids h
  split
  · split
    · exact ⟨_, rfl⟩
    · exact ⟨h.ready, rfl⟩
  · exact ⟨h.ready, rfl⟩

/-- A publication changes the bus by one `emit`, and otherwise only wakes workers. -/
theorem emit_eq (topic : String) (payload : Json) :
    ∃ ready, h.emit topic payload =
      { h with fanout := h.fanout.apply (.emit topic payload h.now), ready } :=
  wake_eq _ _

@[simp] theorem emit_fanout (topic : String) (payload : Json) :
    (h.emit topic payload).fanout = h.fanout.apply (.emit topic payload h.now) := by
  obtain ⟨r, hr⟩ := h.emit_eq topic payload
  rw [hr]

@[simp] theorem emit_sessions (topic : String) (payload : Json) :
    (h.emit topic payload).sessions = h.sessions := by
  obtain ⟨r, hr⟩ := h.emit_eq topic payload
  rw [hr]

@[simp] theorem emit_link (topic : String) (payload : Json) :
    (h.emit topic payload).link = h.link := by
  obtain ⟨r, hr⟩ := h.emit_eq topic payload
  rw [hr]

@[simp] theorem emit_generation (topic : String) (payload : Json) :
    (h.emit topic payload).generation = h.generation := by
  obtain ⟨r, hr⟩ := h.emit_eq topic payload
  rw [hr]

theorem emit_publishes {f : Fanout} (hf : f.Publishes h.fanout) (topic : String)
    (payload : Json) : f.Publishes (h.emit topic payload).fanout := by
  rw [emit_fanout]
  exact hf.emit _ _ _

theorem setLink_publishes {f : Fanout} (hf : f.Publishes h.fanout) (s : LinkState) :
    f.Publishes (h.setLink s).fanout := by
  unfold setLink
  apply emit_publishes
  exact hf

/-- Showing a link state keeps the active session the active one. -/
@[simp] theorem setLink_active (s : LinkState) :
    (h.setLink s).sessions.active = h.sessions.active := by
  unfold setLink
  rw [emit_sessions]
  split <;> rfl

@[simp] theorem setLink_link (s : LinkState) : (h.setLink s).link = s := by
  unfold setLink
  rw [emit_link]

@[simp] theorem setLink_generation (s : LinkState) :
    (h.setLink s).generation = h.generation := by
  unfold setLink
  rw [emit_generation]

/-- A call to the Wi-Fi joiner is only recorded. -/
theorem noteJoiner_eq (call : String) : ∃ joiner, h.noteJoiner call = { h with joiner } := by
  unfold noteJoiner
  split
  · exact ⟨_, rfl⟩
  · exact ⟨h.joiner, rfl⟩

@[simp] theorem noteJoiner_fanout (call : String) : (h.noteJoiner call).fanout = h.fanout := by
  obtain ⟨j, hj⟩ := h.noteJoiner_eq call
  rw [hj]

@[simp] theorem noteJoiner_sessions (call : String) :
    (h.noteJoiner call).sessions = h.sessions := by
  obtain ⟨j, hj⟩ := h.noteJoiner_eq call
  rw [hj]

theorem reseed_publishes {f : Fanout} (hf : f.Publishes h.fanout) (e : Option Endpoint) :
    f.Publishes (h.reseed e).fanout := by
  unfold reseed publishProvisioning
  apply emit_publishes
  exact hf

@[simp] theorem reseed_sessions (e : Option Endpoint) : (h.reseed e).sessions = h.sessions := by
  unfold reseed publishProvisioning
  rw [emit_sessions]

end Frames

end Host

end Tether
