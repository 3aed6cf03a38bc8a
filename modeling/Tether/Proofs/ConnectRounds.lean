import Mathlib
import Tether.Proofs.HostFrames
import Tether.Proofs.SessionSwitch
/-!
# Proofs.ConnectRounds — a connect always ends with the link let go

Connect attempts run in rounds (`Host.runAttempts`): each round resumes every unfinished
attempt once (`Host.stepAll`), lets the background work run, and lets time pass to the next
end of a portal join when no attempt can move.  The rounds are bounded by fuel, and this
module shows the fuel always suffices and what the host looks like at the end.

*Progress.*  Each attempt carries a weight (`Attempt.weight`): four while fresh, three while
waiting for the link, two while joining a portal network that may not end yet, one while
joining one that may, nothing once finished.  A step of an attempt lowers its weight, or
changes nothing because it could not move (`stepAttempt_progress`); the host only moves
forward meanwhile — more connects begun, a later clock — which can only lower weights
(`Attempt.weight_antitone`).  So a round lowers the sum of the weights
(`Host.potential`), or no attempt could move at all, in which case time passes to the next
end of a join and that join's weight drops (`runAttempts_rounds`).  The sum starts at four
per attempt, below the fuel `connectAll` gives.

*The link.*  Taking the link shows `joiningPortal` or `connecting`; every path out of an
attempt shows `disconnected` again, except an attempt left joining.  So the link shows
disconnected unless some attempt is joining (`LinkShown`), and at the end none is.

No session is ever activated here: the control channel of this host never opens
(`dialFailure`), so every connect ends in a failure or a cancellation.
-/

namespace Tether

open Tether.Json

set_option autoImplicit false

namespace AttemptStage

/-- Whether an attempt is joining a portal network. -/
def isJoining : AttemptStage → Bool
  | .joining .. => true
  | _ => false

theorem isFinished_of_isJoining {s : AttemptStage} (hj : s.isJoining = true) :
    s.isFinished = false := by
  cases s <;> simp_all [isJoining, isFinished]

end AttemptStage

namespace Host

/-! ## Moving forward within a round -/

/-- `h'` follows the calm host `h` within a round of connect attempts: it is calm, has begun
no fewer connects, and its clock has not gone back. -/
structure Follows (h h' : Host) : Prop where
  calm : h'.Calm
  generation : h.generation ≤ h'.generation
  clock : h.clock ≤ h'.clock

namespace Follows

variable {h h' h'' : Host}

theorem refl (hc : h.Calm) : Follows h h := ⟨hc, le_rfl, le_rfl⟩

theorem trans (h₁ : Follows h h') (h₂ : Follows h' h'') : Follows h h'' :=
  ⟨h₂.calm, h₁.generation.trans h₂.generation, h₁.clock.trans h₂.clock⟩

theorem of_steady (hs : Steady h h') : Follows h h' :=
  ⟨hs.calm, hs.generation.ge, hs.clock_le⟩

theorem of_linkView (hc : h.Calm) (hv : h'.linkView = h.linkView) : Follows h h' :=
  of_steady (Steady.of_linkView hc hv)

theorem setLink (hf : Follows h h') (s : LinkState) : Follows h (h'.setLink s) := by
  have hv := setLink_linkView h' hf.calm.inactive s
  exact hf.trans ⟨hf.calm.setLink s, (congrArg LinkView.generation hv).ge,
    (congrArg LinkView.clock hv).ge⟩

theorem noteJoiner (hf : Follows h h') (call : String) : Follows h (h'.noteJoiner call) :=
  hf.trans (of_linkView hf.calm (noteJoiner_linkView h' call))

end Follows

end Host

namespace Attempt

/-- How far an attempt is from finishing, as a host sees it. -/
def weight (h : Host) (a : Attempt) : Nat :=
  match a.stage with
  | .fresh => 4
  | .waiting => 3
  | .joining _ deadline => if a.token < h.generation || deadline ≤ h.clock then 1 else 2
  | .finished _ => 0

theorem weight_le_four (h : Host) (a : Attempt) : a.weight h ≤ 4 := by
  unfold weight
  split
  · exact le_rfl
  · omega
  · split <;> omega
  · omega

theorem weight_joining_le_two (h : Host) (a : Attempt) (ssid : String) (deadline : Nat) :
    ({ a with stage := .joining ssid deadline } : Attempt).weight h ≤ 2 := by
  unfold weight
  dsimp only
  split <;> omega

theorem weight_joining_pos (h : Host) {a : Attempt} {ssid : String} {deadline : Nat}
    (hs : a.stage = .joining ssid deadline) : 0 < a.weight h := by
  unfold weight
  rw [hs]
  dsimp only
  split <;> omega

/-- With more connects begun and a later clock, a join that may end still may. -/
theorem weight_antitone {h h' : Host} (hf : h.Follows h') (a : Attempt) :
    a.weight h' ≤ a.weight h := by
  unfold weight
  split
  · exact le_rfl
  · exact le_rfl
  · next deadline _ =>
    have hmono : (a.token < h.generation || deadline ≤ h.clock) = true →
        (a.token < h'.generation || deadline ≤ h'.clock) = true := by
      simp only [Bool.or_eq_true, decide_eq_true_eq]
      have := hf.generation
      have := hf.clock
      omega
    by_cases hr : (a.token < h.generation || deadline ≤ h.clock) = true
    · rw [if_pos hr, if_pos (hmono hr)]
    · rw [if_neg hr]
      split <;> omega
  · exact le_rfl

end Attempt

namespace Host

/-- What is left to do of a list of attempts. -/
def potential (h : Host) (as : List Attempt) : Nat := (as.map (·.weight h)).sum

@[simp] theorem potential_nil (h : Host) : h.potential [] = 0 := rfl

@[simp] theorem potential_cons (h : Host) (a : Attempt) (as : List Attempt) :
    h.potential (a :: as) = a.weight h + h.potential as := by
  simp only [potential, List.map_cons, List.sum_cons]

theorem potential_le (h : Host) (as : List Attempt) : h.potential as ≤ 4 * as.length := by
  induction as with
  | nil => simp
  | cons a as ih =>
    rw [potential_cons, List.length_cons]
    have := a.weight_le_four h
    omega

theorem potential_antitone {h h' : Host} (hf : Follows h h') (as : List Attempt) :
    h'.potential as ≤ h.potential as := by
  induction as with
  | nil => exact le_rfl
  | cons a as ih =>
    rw [potential_cons, potential_cons]
    have := Attempt.weight_antitone hf a
    omega

/-- Moving forward lowers what is left if it lowers the weight of one attempt. -/
theorem potential_lt_of_mem {h h' : Host} (hf : Follows h h') {as : List Attempt}
    {b : Attempt} (hb : b ∈ as) (hlt : b.weight h' < b.weight h) :
    h'.potential as < h.potential as := by
  induction as with
  | nil => cases hb
  | cons a as ih =>
    rw [potential_cons, potential_cons]
    rcases List.mem_cons.mp hb with rfl | hb
    · have := potential_antitone hf as
      omega
    · have := ih hb
      have := Attempt.weight_antitone hf a
      omega

/-! ## One attempt -/

/-- An attempt gives the link up: it finishes with a failure, and the link shows
disconnected. -/
def LetsGo (r : Host × AttemptStage) : Prop :=
  r.1.link = .disconnected ∧ ∃ e, r.2 = .finished (.error e)

namespace Follows

variable {h h' : Host}

theorem leavePortal (hf : Follows h h') (ssid : String) : Follows h (h'.leavePortal ssid) :=
  hf.noteJoiner _

theorem failAttempt (hf : Follows h h') (e : LinkError) :
    Follows h (h'.failAttempt e).1 ∧ LetsGo (h'.failAttempt e) :=
  ⟨hf.setLink .disconnected, setLink_link h' .disconnected, e, rfl⟩

theorem openChannel (hf : Follows h h') (a : Attempt) (portal : Option String) :
    Follows h (h'.openChannel a portal).1 ∧ LetsGo (h'.openChannel a portal) := by
  have hc := hf.setLink .connecting
  cases portal with
  | none => exact hc.failAttempt _
  | some ssid => exact (hc.leavePortal ssid).failAttempt _

end Follows

/-- What taking the link leaves: the host follows, and the attempt was superseded meanwhile
and changed nothing, or gives the link up again, or is left joining a portal network. -/
structure Holds (h : Host) (r : Host × AttemptStage) : Prop where
  follows : Follows h r.1
  outcome : r = (h, .finished (.error .cancelled)) ∨ LetsGo r ∨
    ∃ ssid deadline, r.2 = .joining ssid deadline

theorem Holds.of_letsGo {h : Host} {r : Host × AttemptStage} (hr : Follows h r.1 ∧ LetsGo r) :
    Holds h r :=
  ⟨hr.1, Or.inr (Or.inl hr.2)⟩

theorem beginHolding_holds {h : Host} (hc : h.Calm) (a : Attempt) :
    Holds h (h.beginHolding a) := by
  by_cases hs : a.token < h.generation
  · rw [beginHolding_superseded h a hs]
    exact ⟨Follows.refl hc, Or.inl rfl⟩
  · -- the host right after the switch, before anything is shown
    have h₀ : Follows h
        { h with sessions := h.sessions.deactivate, fanout := h.fanout.resetSession } :=
      ⟨⟨SessionDirectory.deactivate_active _, hc.wellFormed.apply .deactivate⟩, le_rfl, le_rfl⟩
    simp only [beginHolding, if_neg hs]
    split
    · exact Holds.of_letsGo (h₀.openChannel a none)
    · -- a portal endpoint: its network is joined first, with or without a passphrase
      have hj := fun call => (h₀.setLink .joiningPortal).noteJoiner call
      split
      all_goals
        split
        · exact Holds.of_letsGo (((hj _).leavePortal _).failAttempt _)
        · split
          · exact ⟨hj _, Or.inr (Or.inr ⟨_, _, rfl⟩)⟩
          · exact Holds.of_letsGo ((hj _).openChannel a _)

/-- How a step of an attempt moves the link: it shows disconnected, or the attempt is left
joining, or the link is as it was and the attempt was not joining before. -/
def LinkStep (h h' : Host) (a a' : Attempt) : Prop :=
  h'.link = .disconnected ∨ a'.stage.isJoining = true ∨
    (h'.link = h.link ∧ a.stage.isJoining = false)

/-- What one step of attempt `i` does: the host follows, the link moves as `LinkStep` says,
and the attempt comes nearer to finishing, or nothing changes because it could not move. -/
structure StepProgress (h : Host) (lock : LinkLock) (i : Nat) (a : Attempt)
    (r : Host × LinkLock × Attempt) : Prop where
  follows : Follows h r.1
  link : LinkStep h r.1 a r.2.2
  progress : r.2.2.weight r.1 < a.weight h ∨ (r = (h, lock, a) ∧ h.canStep lock i a = false)

namespace StepProgress

variable {h : Host} {lock lock' : LinkLock} {i : Nat} {a a₀ : Attempt}

/-- An attempt that gives the link up has finished. -/
theorem letsGo {x : Host × AttemptStage} {a' : Attempt} (hx : Follows h x.1 ∧ LetsGo x)
    (hs : a'.stage = x.2) (hpos : 0 < a.weight h) : StepProgress h lock i a (x.1, lock', a') := by
  obtain ⟨hf, hd, e, he⟩ := hx
  have hw : a'.weight x.1 = 0 := by
    unfold Attempt.weight
    rw [hs, he]
  exact ⟨hf, Or.inl hd, Or.inl (by dsimp only; omega)⟩

/-- Taking the link, for an attempt that was fresh or waiting. -/
theorem hold {h₀ : Host} (hf : Follows h h₀) (hl : h₀.link = h.link) (hw : 2 < a.weight h)
    (ha : a.stage.isJoining = false) :
    StepProgress h lock i a
      ((h₀.beginHolding a₀).1, lock', { a₀ with stage := (h₀.beginHolding a₀).2 }) := by
  have hr := beginHolding_holds hf.calm a₀
  rcases hr.outcome with hs | hg | ⟨ssid, deadline, hj⟩
  · -- superseded meanwhile: the attempt finishes, and nothing else changed
    rw [hs]
    exact ⟨hf, Or.inr (Or.inr ⟨hl, ha⟩), Or.inl (by show 0 < a.weight h; omega)⟩
  · exact letsGo ⟨hf.trans hr.follows, hg⟩ rfl (by omega)
  · refine ⟨hf.trans hr.follows, Or.inr (Or.inl ?_), Or.inl ?_⟩
    · dsimp only
      rw [hj]
      rfl
    · dsimp only
      rw [hj]
      have := Attempt.weight_joining_le_two (h₀.beginHolding a₀).1 a₀ ssid deadline
      omega

end StepProgress

theorem stepAttempt_progress {h : Host} (hc : h.Calm) (lock : LinkLock) (i : Nat)
    {a : Attempt} (hu : a.stage.isFinished = false) :
    StepProgress h lock i a (h.stepAttempt lock i a) := by
  obtain ⟨endpoint, token, stage⟩ := a
  cases stage with
  | fresh =>
    -- one more connect is begun; the attempt takes the link, or waits for it
    have h₁ : Follows h { h with generation := h.generation + 1 } :=
      ⟨⟨hc.inactive, hc.wellFormed⟩, Nat.le_succ _, le_rfl⟩
    unfold stepAttempt
    dsimp only
    split
    · exact StepProgress.hold h₁ rfl (by show 2 < 4; omega) rfl
    · exact ⟨h₁, Or.inr (Or.inr ⟨rfl, rfl⟩), Or.inl (by show 3 < 4; omega)⟩
  | waiting =>
    unfold stepAttempt
    dsimp only
    split
    · exact StepProgress.hold (Follows.refl hc) rfl (by show 2 < 3; omega) rfl
    · rename_i hno
      refine ⟨Follows.refl hc, Or.inr (Or.inr ⟨rfl, rfl⟩), Or.inr ⟨rfl, ?_⟩⟩
      simpa [canStep] using hno
  | joining ssid deadline =>
    have hpos := Attempt.weight_joining_pos h (a := ⟨endpoint, token, .joining ssid deadline⟩) rfl
    unfold stepAttempt
    dsimp only
    split
    · -- superseded while joining: the network is left and the attempt cancelled
      exact StepProgress.letsGo (((Follows.refl hc).leavePortal ssid).failAttempt _) rfl hpos
    · split
      · -- the join has ended: the channel is opened, and fails
        exact StepProgress.letsGo ((Follows.refl hc).openChannel _ (some ssid)) rfl hpos
      · rename_i hsup hdue
        refine ⟨Follows.refl hc, Or.inr (Or.inl rfl), Or.inr ⟨rfl, ?_⟩⟩
        simp [canStep, hsup, hdue]
  | finished r => cases hu

theorem release_of_unfinished (lock : LinkLock) (i : Nat) {a : Attempt}
    (hu : a.stage.isFinished = false) : release lock i a = lock := by
  unfold release
  split
  · rename_i r hs
    rw [hs] at hu
    cases hu
  · rfl

@[simp] theorem afterAttempt_linkView (h : Host) (a : Attempt) :
    (h.afterAttempt a).linkView = h.linkView := by
  unfold afterAttempt
  split
  · rfl
  · exact reseed_linkView h none
  · rfl

/-- Handing the link on and leaving provisioning what it needs keep what a step did. -/
theorem StepProgress.finish {h h₂ : Host} {lock : LinkLock} {i : Nat} {a : Attempt}
    {r : Host × LinkLock × Attempt} (hp : StepProgress h lock i a r)
    (hv : h₂.linkView = r.1.linkView) (hu : a.stage.isFinished = false)
    (hstay : r.2.2.stage.isFinished = false → h₂ = r.1) :
    StepProgress h lock i a (h₂, release r.2.1 i r.2.2, r.2.2) := by
  have hf₂ : Follows r.1 h₂ := Follows.of_linkView hp.follows.calm hv
  refine ⟨hp.follows.trans hf₂, ?_, ?_⟩
  · unfold LinkStep
    rw [link_of_linkView hv]
    exact hp.link
  · rcases hp.progress with hlt | ⟨heq, hno⟩
    · have := Attempt.weight_antitone hf₂ r.2.2
      exact Or.inl (by dsimp only; omega)
    · -- nothing moved: the attempt is as it was, unfinished, so it keeps the link
      subst heq
      rw [hstay hu, release_of_unfinished _ _ hu]
      exact Or.inr ⟨rfl, hno⟩

theorem visitAttempt_progress {h : Host} (hc : h.Calm) (lock : LinkLock) (i : Nat)
    (a : Attempt) : StepProgress h lock i a (h.visitAttempt lock i a) := by
  unfold visitAttempt
  split
  · -- a finished attempt is passed over
    rename_i r hs
    refine ⟨Follows.refl hc, Or.inr (Or.inr ⟨rfl, by rw [hs]; rfl⟩), Or.inr ⟨rfl, ?_⟩⟩
    unfold canStep
    rw [hs]
  · rename_i hnf
    have hu : a.stage.isFinished = false := by
      cases hs : a.stage with
      | finished r => exact absurd hs (hnf r)
      | _ => rfl
    have hp := stepAttempt_progress hc lock i hu
    dsimp only
    split
    · rename_i r hs
      exact hp.finish (afterAttempt_linkView _ _) hu (fun hf => by rw [hs] at hf; cases hf)
    · exact hp.finish rfl hu (fun _ => rfl)

/-! ## A pass over the attempts -/

/-- No attempt could move, so a pass over them changed nothing. -/
def Stalled (h : Host) (lock : LinkLock) (i : Nat) (as : List Attempt)
    (s : Host × LinkLock × List Attempt) : Prop :=
  s = (h, lock, as) ∧ ∀ p ∈ as.zipIdx i, h.canStep lock p.2 p.1 = false

/-- The link shows disconnected unless one of the attempts is joining a portal network. -/
def LinkShown (h : Host) (as : List Attempt) : Prop :=
  h.link = .disconnected ∨ ∃ a ∈ as, a.stage.isJoining = true

theorem LinkShown.step {h h' : Host} {done rest : List Attempt} {a a' : Attempt}
    (hs : LinkShown h (done ++ a :: rest)) (hl : LinkStep h h' a a') :
    LinkShown h' (done ++ a' :: rest) := by
  rcases hl with hd | hj | ⟨hl, ha⟩
  · exact Or.inl hd
  · exact Or.inr ⟨a', List.mem_append_right _ List.mem_cons_self, hj⟩
  · rcases hs with hd | ⟨b, hb, hj⟩
    · exact Or.inl (hl.trans hd)
    · -- the joining attempt is not `a`, so it is still there
      refine Or.inr ⟨b, ?_, hj⟩
      rcases List.mem_append.mp hb with hb | hb
      · exact List.mem_append_left _ hb
      · rcases List.mem_cons.mp hb with rfl | hb
        · rw [ha] at hj
          cases hj
        · exact List.mem_append_right _ (List.mem_cons_of_mem _ hb)

theorem LinkShown.disconnected {h : Host} {as : List Attempt} (hs : LinkShown h as)
    (hn : ∀ a ∈ as, a.stage.isJoining = false) : h.link = .disconnected := by
  rcases hs with hd | ⟨a, ha, hj⟩
  · exact hd
  · rw [hn a ha] at hj
    cases hj

theorem stepAll_cons (h : Host) (lock : LinkLock) (i : Nat) (a : Attempt) (rest : List Attempt) :
    h.stepAll lock i (a :: rest) =
      (((h.visitAttempt lock i a).1.stepAll (h.visitAttempt lock i a).2.1 (i + 1) rest).1,
        ((h.visitAttempt lock i a).1.stepAll (h.visitAttempt lock i a).2.1 (i + 1) rest).2.1,
        (h.visitAttempt lock i a).2.2 ::
          ((h.visitAttempt lock i a).1.stepAll (h.visitAttempt lock i a).2.1 (i + 1) rest).2.2) :=
  rfl

theorem potential_le_of_progress {h : Host} {lock : LinkLock} {i : Nat} {as : List Attempt}
    {s : Host × LinkLock × List Attempt}
    (hp : s.1.potential s.2.2 < h.potential as ∨ Stalled h lock i as s) :
    s.1.potential s.2.2 ≤ h.potential as := by
  rcases hp with hlt | ⟨rfl, _⟩
  · exact hlt.le
  · exact le_rfl

/-- A pass over the attempts from index `i`: the host follows, and the attempts come nearer
to finishing, unless none of them could move. -/
theorem stepAll_progress (as : List Attempt) :
    ∀ (h : Host) (lock : LinkLock) (i : Nat), h.Calm →
      Follows h (h.stepAll lock i as).1 ∧
        ((h.stepAll lock i as).1.potential (h.stepAll lock i as).2.2 < h.potential as ∨
          Stalled h lock i as (h.stepAll lock i as)) := by
  induction as with
  | nil => intro h lock i hc; exact ⟨Follows.refl hc, Or.inr ⟨rfl, by simp⟩⟩
  | cons a rest ih =>
    intro h lock i hc
    have hv := visitAttempt_progress hc lock i a
    obtain ⟨hf, hp⟩ := ih _ (h.visitAttempt lock i a).2.1 (i + 1) hv.follows.calm
    rw [stepAll_cons]
    generalize h.visitAttempt lock i a = v at hv hf hp ⊢
    obtain ⟨h₁, lock₁, a₁⟩ := v
    generalize h₁.stepAll lock₁ (i + 1) rest = r at hf hp ⊢
    obtain ⟨h₂, lock₂, rest₂⟩ := r
    have hle := potential_le_of_progress hp
    dsimp only at hv hf hp hle ⊢
    refine ⟨hv.follows.trans hf, ?_⟩
    rw [potential_cons, potential_cons]
    have hw := Attempt.weight_antitone hf a₁
    rcases hv.progress with hlt | ⟨hvs, hno⟩
    · -- the visit moved `a` on
      have := potential_antitone hv.follows rest
      dsimp only at hlt this
      exact Or.inl (by omega)
    · -- the visit changed nothing
      simp only [Prod.mk.injEq] at hvs
      obtain ⟨rfl, rfl, rfl⟩ := hvs
      rcases hp with hlt | ⟨hss, hno₂⟩
      · exact Or.inl (by omega)
      · simp only [Prod.mk.injEq] at hss
        obtain ⟨rfl, rfl, rfl⟩ := hss
        refine Or.inr ⟨rfl, fun p hp => ?_⟩
        rw [List.zipIdx_cons] at hp
        rcases List.mem_cons.mp hp with rfl | hp
        · exact hno
        · exact hno₂ p hp

/-- A pass keeps the link shown as `LinkShown` says, whatever attempts came before. -/
theorem stepAll_linkShown (as : List Attempt) :
    ∀ (done : List Attempt) (h : Host) (lock : LinkLock) (i : Nat), h.Calm →
      LinkShown h (done ++ as) →
      LinkShown (h.stepAll lock i as).1 (done ++ (h.stepAll lock i as).2.2) := by
  induction as with
  | nil => intro done h lock i _ hs; exact hs
  | cons a rest ih =>
    intro done h lock i hc hs
    have hv := visitAttempt_progress hc lock i a
    have hs₁ : LinkShown (h.visitAttempt lock i a).1 ((done ++ [(h.visitAttempt lock i a).2.2]) ++ rest) := by
      rw [List.append_assoc, List.singleton_append]
      exact hs.step hv.link
    have ih₁ := ih _ _ (h.visitAttempt lock i a).2.1 (i + 1) hv.follows.calm hs₁
    rw [List.append_assoc, List.singleton_append] at ih₁
    rw [stepAll_cons]
    exact ih₁

/-! ## The rounds -/

/-- Whether an attempt can move reads only the count of connects begun and the clock. -/
theorem canStep_congr {h h' : Host} (hg : h'.generation = h.generation) (hk : h'.clock = h.clock)
    (lock : LinkLock) (i : Nat) (a : Attempt) : h'.canStep lock i a = h.canStep lock i a := by
  unfold canStep
  rw [hg, hk]

/-- The earliest end of a join is the start value or the end of some attempt's join. -/
theorem foldl_joinEndStep_some (as : List Attempt) :
    ∀ (acc : Option Nat) {t : Nat}, as.foldl joinEndStep acc = some t →
      acc = some t ∨ ∃ a ∈ as, ∃ ssid, a.stage = .joining ssid t := by
  induction as with
  | nil => intro acc t ht; exact Or.inl ht
  | cons a rest ih =>
    intro acc t ht
    rw [List.foldl_cons] at ht
    rcases ih _ ht with hs | ⟨b, hb, ssid, hbs⟩
    · -- the end after `a` is `t`: it is `a`'s own end, or the end before it
      unfold joinEndStep at hs
      cases hst : a.stage with
      | joining ssid t' =>
        cases acc with
        | none =>
          simp only [hst, Option.some.injEq] at hs
          exact Or.inr ⟨a, List.mem_cons_self, ssid, by rw [hst, hs]⟩
        | some u =>
          simp only [hst, Option.some.injEq] at hs
          rcases Nat.le_total t' u with hle | hle
          · rw [Nat.min_eq_left hle] at hs
            exact Or.inr ⟨a, List.mem_cons_self, ssid, by rw [hst, hs]⟩
          · rw [Nat.min_eq_right hle] at hs
            exact Or.inl (by rw [hs])
      | fresh => simp only [hst] at hs; exact Or.inl hs
      | waiting => simp only [hst] at hs; exact Or.inl hs
      | finished r => simp only [hst] at hs; exact Or.inl hs
    · exact Or.inr ⟨b, List.mem_cons_of_mem _ hb, ssid, hbs⟩

theorem nextJoinEnd_some {as : List Attempt} {t : Nat} (ht : nextJoinEnd as = some t) :
    ∃ a ∈ as, ∃ ssid, a.stage = .joining ssid t := by
  rcases foldl_joinEndStep_some as none ht with hn | h
  · cases hn
  · exact h

/-- Once a join is seen, an end is known. -/
theorem joinEndStep_isSome (acc : Option Nat) (a : Attempt)
    (h : acc.isSome = true ∨ a.stage.isJoining = true) : (joinEndStep acc a).isSome = true := by
  unfold joinEndStep
  cases hst : a.stage with
  | joining ssid t' => cases acc <;> rfl
  | fresh => simpa [hst, AttemptStage.isJoining] using h
  | waiting => simpa [hst, AttemptStage.isJoining] using h
  | finished r => simpa [hst, AttemptStage.isJoining] using h

theorem foldl_joinEndStep_isSome (as : List Attempt) :
    ∀ acc : Option Nat, (acc.isSome = true ∨ ∃ a ∈ as, a.stage.isJoining = true) →
      (as.foldl joinEndStep acc).isSome = true := by
  induction as with
  | nil =>
    intro acc h
    rcases h with h | ⟨a, ha, _⟩
    · exact h
    · cases ha
  | cons a rest ih =>
    intro acc h
    rw [List.foldl_cons]
    apply ih
    rcases h with h | ⟨b, hb, hj⟩
    · exact Or.inl (joinEndStep_isSome acc a (Or.inl h))
    · rcases List.mem_cons.mp hb with rfl | hb
      · exact Or.inl (joinEndStep_isSome acc b (Or.inr hj))
      · exact Or.inr ⟨b, hb, hj⟩

/-- With no join ending, no attempt is joining. -/
theorem nextJoinEnd_none {as : List Attempt} (ht : nextJoinEnd as = none) :
    ∀ a ∈ as, a.stage.isJoining = false := by
  intro a ha
  cases hj : a.stage.isJoining
  · rfl
  · have := foldl_joinEndStep_isSome as none (Or.inr ⟨a, ha, hj⟩)
    unfold nextJoinEnd at ht
    rw [ht] at this
    cases this

theorem allFinished_not_joining {as : List Attempt} (hf : allFinished as = true) :
    ∀ a ∈ as, a.stage.isJoining = false := by
  intro a ha
  have hfin : a.stage.isFinished = true := List.all_eq_true.mp hf a ha
  cases hj : a.stage.isJoining
  · rfl
  · rw [AttemptStage.isFinished_of_isJoining hj] at hfin
    cases hfin

section Rounds

variable {h : Host} (lock : LinkLock) (as : List Attempt)

/-- A round after which some attempt can move has lowered what is left to do. -/
theorem round_potential_movable (hc : h.Calm)
    (hmov : ∃ p ∈ (h.stepAll lock 0 as).2.2.zipIdx,
      (h.stepAll lock 0 as).1.settle.canStep (h.stepAll lock 0 as).2.1 p.2 p.1 = true) :
    (h.stepAll lock 0 as).1.settle.potential (h.stepAll lock 0 as).2.2 < h.potential as := by
  obtain ⟨hf, hp⟩ := stepAll_progress as h lock 0 hc
  generalize h.stepAll lock 0 as = r at hf hp hmov ⊢
  obtain ⟨h₁, lock₁, as₁⟩ := r
  dsimp only at hf hp hmov ⊢
  have hv₂ := settle_linkView h₁ hf.calm.inactive
  have hpot₂ := potential_antitone (Follows.of_linkView hf.calm hv₂) as₁
  rcases hp with hlt | ⟨hst, hno⟩
  · omega
  · -- a stalled pass leaves every attempt unable to move, also after the background work
    exfalso
    simp only [Prod.mk.injEq] at hst
    obtain ⟨rfl, rfl, rfl⟩ := hst
    obtain ⟨p, hmem, hcan⟩ := hmov
    rw [canStep_congr (generation_of_linkView hv₂) (clock_of_linkView hv₂), hno p hmem] at hcan
    cases hcan

/-- A round after which time passes to the first end of a join has lowered what is left to
do: if nothing moved, that join could not end before and can now. -/
theorem round_potential_advance (hc : h.Calm) {t : Nat}
    (ht : nextJoinEnd (h.stepAll lock 0 as).2.2 = some t) :
    ((h.stepAll lock 0 as).1.settle.advanceTo t).potential (h.stepAll lock 0 as).2.2 <
      h.potential as := by
  obtain ⟨hf, hp⟩ := stepAll_progress as h lock 0 hc
  generalize h.stepAll lock 0 as = r at hf hp ht ⊢
  obtain ⟨h₁, lock₁, as₁⟩ := r
  dsimp only at hf hp ht ⊢
  have hf₂ := Follows.of_linkView hf.calm (settle_linkView h₁ hf.calm.inactive)
  obtain ⟨hadv, hclock⟩ := advanceTo_steady h₁.settle hf₂.calm t
  have hf₃ := Follows.of_steady hadv
  have hpot₂ := potential_antitone hf₂ as₁
  have hpot₃ := potential_antitone hf₃ as₁
  rcases hp with hlt | ⟨hst, hno⟩
  · omega
  · simp only [Prod.mk.injEq] at hst
    obtain ⟨rfl, rfl, rfl⟩ := hst
    obtain ⟨b, hb, ssid, hbs⟩ := nextJoinEnd_some ht
    have hbi : b ∈ (as₁.zipIdx 0).map Prod.fst := by
      rw [List.zipIdx_map_fst]
      exact hb
    obtain ⟨⟨b', j⟩, hmem, hbb⟩ := List.mem_map.mp hbi
    dsimp only at hbb
    subst hbb
    have hcan := hno (b', j) hmem
    simp only [canStep, hbs] at hcan
    have hw₁ : b'.weight h₁ = 2 := by simp [Attempt.weight, hbs, hcan]
    have hw₃ : b'.weight (h₁.settle.advanceTo t) = 1 := by simp [Attempt.weight, hbs, hclock]
    have := potential_lt_of_mem (hf₂.trans hf₃) hb (by omega)
    omega

end Rounds

/-- The rounds of connect attempts, given fuel beyond what is left to do: whatever a pass,
the background work and the passing of time each keep also holds when the rounds end, and no
attempt is then left joining. -/
theorem runAttempts_rounds (P : Host → LinkLock → List Attempt → Prop)
    (hpass : ∀ h lock as, h.Calm → P h lock as →
      P (h.stepAll lock 0 as).1 (h.stepAll lock 0 as).2.1 (h.stepAll lock 0 as).2.2)
    (hsettle : ∀ h lock as, h.Calm → P h lock as → P h.settle lock as)
    (hadvance : ∀ h lock as t, h.Calm → P h lock as → P (h.advanceTo t) lock as) (fuel : Nat) :
    ∀ (h : Host) (lock : LinkLock) (as : List Attempt), h.Calm → P h lock as →
      h.potential as < fuel →
      (h.runAttempts lock as fuel).1.Calm ∧
        (∃ lock', P (h.runAttempts lock as fuel).1 lock' (h.runAttempts lock as fuel).2) ∧
        ∀ a ∈ (h.runAttempts lock as fuel).2, a.stage.isJoining = false := by
  induction fuel with
  | zero => intro h lock as _ _ hlt; omega
  | succ fuel ih =>
    intro h lock as hc hp hlt
    have hmove := round_potential_movable lock as hc
    have hadvance' := fun t => round_potential_advance lock as hc (t := t)
    obtain ⟨hf, -⟩ := stepAll_progress as h lock 0 hc
    have hp₁ := hpass h lock as hc hp
    unfold runAttempts
    generalize h.stepAll lock 0 as = r at hmove hadvance' hf hp₁ ⊢
    obtain ⟨h₁, lock₁, as₁⟩ := r
    dsimp only at hmove hadvance' hf hp₁ ⊢
    -- the background work between rounds keeps all a round reads
    have hf₂ : Follows h₁ h₁.settle := Follows.of_linkView hf.calm (settle_linkView h₁ hf.calm.inactive)
    have hp₂ := hsettle h₁ lock₁ as₁ hf.calm hp₁
    split
    · -- every attempt finished, so none is joining
      exact ⟨hf.calm, ⟨lock₁, hp₁⟩, allFinished_not_joining ‹_›⟩
    · split
      · -- some attempt can move: the next round
        rename_i hmov
        obtain ⟨⟨a, j⟩, hmem, hcan⟩ := List.any_eq_true.mp hmov
        have := hmove ⟨(a, j), hmem, hcan⟩
        exact ih _ _ _ hf₂.calm hp₂ (by omega)
      · split
        · -- time passes to the first end of a join
          rename_i t ht
          obtain ⟨hadv, -⟩ := advanceTo_steady h₁.settle hf₂.calm t
          have := hadvance' t ht
          exact ih _ _ _ hadv.calm (hadvance _ _ _ t hf₂.calm hp₂) (by omega)
        · -- no join pending: no attempt is joining
          exact ⟨hf₂.calm, ⟨lock₁, hp₂⟩, nextJoinEnd_none ‹_›⟩

/-- Rounds of connect attempts end with the link let go and no session active, given fuel
beyond what is left to do. -/
theorem runAttempts_idle (fuel : Nat) :
    ∀ (h : Host) (lock : LinkLock) (as : List Attempt), h.Calm → LinkShown h as →
      h.potential as < fuel → (h.runAttempts lock as fuel).1.Idle := by
  intro h lock as hc hs hlt
  -- the link stays shown as the attempts say through every round
  have hrounds := runAttempts_rounds (fun h _ as => LinkShown h as)
    (fun h lock as hc hs => stepAll_linkShown as [] h lock 0 hc hs)
    (fun h _ _ hc hs => by
      unfold LinkShown
      rw [link_of_linkView (settle_linkView h hc.inactive)]
      exact hs)
    (fun h _ _ t hc hs => by
      unfold LinkShown
      rw [(advanceTo_steady h hc t).1.link]
      exact hs)
    fuel h lock as hc hs hlt
  obtain ⟨hc', ⟨-, hs'⟩, hn⟩ := hrounds
  exact ⟨hc', hs'.disconnected hn⟩

/-! ## Connecting -/

section Connecting

variable {h : Host}

/-- Connecting from a host that holds no device leaves it holding none, whatever the
endpoints and however the attempts end: the fuel, four rounds per attempt and four more, is
always enough. -/
theorem connectAll_idle (hi : h.Idle) (endpoints : List Endpoint) :
    (h.connectAll endpoints).2.Idle := by
  unfold connectAll
  dsimp only
  refine runAttempts_idle _ h {} _ hi.calm (Or.inl hi.disconnected) ?_
  have hle := potential_le h (endpoints.map fun e => { endpoint := e })
  rw [List.length_map] at hle
  omega

theorem connect_idle (hi : h.Idle) (e : Endpoint) : (h.connect e).2.Idle := by
  have hall := connectAll_idle hi [e]
  unfold connect
  split
  · rename_i heq
    rw [heq] at hall
    exact hall
  · rename_i heq
    rw [heq] at hall
    exact hall

theorem reconnectLast_idle (hi : h.Idle) : h.reconnectLast.2.Idle := by
  unfold reconnectLast
  split
  · exact hi
  · exact connect_idle hi _

end Connecting

end Host

end Tether
