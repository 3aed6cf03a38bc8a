import Tether.Proofs.ProvisioningRuns
/-!
# Proofs.LinkLine — connect attempts take the link in the order they began

Concurrent connects (`Host.connectAll`) share the link through a lock: the attempt holding
it, and the attempts waiting for it in the order they asked (`LinkLock`).  One visit of an
attempt (`Host.visitAttempt`) does one of five things to that line (`LineStep`): nothing; a
fresh attempt joins the end of the line, or takes the free link and is left joining a portal
network; the waiting holder starts and is left joining; or an attempt on a free link, or the
holder, finishes and the link passes to the first waiter (`visitAttempt_line`).

Between visits the attempts stand in line as `LinkQueue` says: those waiting or joining are
exactly the holder and the waiters, in the order they began; only the holder joins; nobody
waits on a free link; and the attempts not yet begun come after all that began.  Every visit
keeps this (`LinkQueue.step`), and so does every pass over the attempts (`stepAll_queue`).

Two things follow.  An attempt finishes only once every attempt begun before it has
finished (`LinkQueue.prior_finished`): attempts finish in the order they began.  And while
an attempt is unfinished, one of them can move or is joining a network whose join will end
(`LinkQueue.can_move`), so rounds of attempts never stall before all have finished.
-/

namespace Tether

set_option autoImplicit false

namespace AttemptStage

/-- Whether an attempt has not begun. -/
def isFresh : AttemptStage → Bool
  | .fresh => true
  | _ => false

/-- Whether an attempt is in line for the link: waiting for it, or holding it while joining a
portal network. -/
def isQueued : AttemptStage → Bool
  | .waiting | .joining .. => true
  | _ => false

theorem isFresh_eq_false_iff {s : AttemptStage} : s.isFresh = false ↔ s ≠ .fresh := by
  cases s <;> simp [isFresh]

theorem cases_fresh_queued_finished (s : AttemptStage) :
    s.isFresh = true ∨ s.isQueued = true ∨ s.isFinished = true := by
  cases s <;> simp [isFresh, isQueued, isFinished]

theorem finished_of_not {s : AttemptStage} (hf : s.isFresh = false) (hq : s.isQueued = false) :
    s.isFinished = true := by
  rcases cases_fresh_queued_finished s with h | h | h
  · rw [hf] at h
    cases h
  · rw [hq] at h
    cases h
  · exact h

theorem isQueued_of_isJoining {s : AttemptStage} (hj : s.isJoining = true) : s.isQueued = true := by
  cases s <;> simp_all [isJoining, isQueued]

theorem isFresh_of_isQueued {s : AttemptStage} (hq : s.isQueued = true) : s.isFresh = false := by
  cases s <;> simp_all [isFresh, isQueued]

theorem isQueued_of_isFinished {s : AttemptStage} (hf : s.isFinished = true) : s.isQueued = false := by
  cases s <;> simp_all [isFinished, isQueued]

theorem isFresh_of_isFinished {s : AttemptStage} (hf : s.isFinished = true) : s.isFresh = false := by
  cases s <;> simp_all [isFinished, isFresh]

end AttemptStage

namespace LinkLock

/-- The line for the link: the holder, then the waiters in the order they asked. -/
def line (lock : LinkLock) : List Nat := lock.holder.toList ++ lock.waiters

/-- The lock once its holder lets go: the first waiter holds it. -/
def next : List Nat → LinkLock
  | [] => {}
  | w :: rest => { holder := some w, waiters := rest }

@[simp] theorem line_next (ws : List Nat) : (next ws).line = ws := by
  cases ws <;> rfl

theorem next_free {ws : List Nat} (hn : (next ws).holder = none) : (next ws).waiters = [] := by
  cases ws with
  | nil => rfl
  | cons w rest => cases hn

end LinkLock

namespace Host

/-- An attempt that takes the link finishes at once or is left joining a portal network. -/
theorem beginHolding_stage (h : Host) (a : Attempt) :
    (h.beginHolding a).2.isFinished = true ∨ (h.beginHolding a).2.isJoining = true := by
  unfold beginHolding
  split
  · exact .inl rfl
  · dsimp only
    split
    · exact .inl rfl
    · split <;> split <;> (try split) <;> first | exact .inl rfl | exact .inr rfl

theorem openChannel_finished (h : Host) (a : Attempt) (portal : Option String) :
    (h.openChannel a portal).2.isFinished = true := by
  unfold openChannel
  rfl

/-- The holder that finishes hands the link to the first waiter. -/
theorem release_of_holder {lock : LinkLock} {i : Nat} {a : Attempt} (hf : a.stage.isFinished = true)
    (hh : lock.holder = some i) : release lock i a = LinkLock.next lock.waiters := by
  obtain ⟨endpoint, token, stage⟩ := a
  cases stage with
  | finished r =>
    simp only [release, hh, beq_self_eq_true, if_true]
    cases lock.waiters <;> rfl
  | _ => cases hf

end Host

/-! ## One visit -/

/-- What a visit of attempt `i` does to the line for the link and to the attempt. -/
inductive LineStep (lock : LinkLock) (i : Nat) (a : Attempt) (lock' : LinkLock) (a' : Attempt) :
    Prop
  /-- Nothing moved; a fresh attempt always moves. -/
  | stay (hnf : a.stage.isFresh = false) (hl : lock' = lock) (ha : a' = a)
  /-- A fresh attempt joins the end of the line behind the holder. -/
  | queue (hf : a.stage = .fresh) (hh : lock.holder.isSome = true) (hw : a'.stage = .waiting)
      (hl : lock' = { lock with waiters := lock.waiters ++ [i] })
  /-- A fresh attempt takes the free link and is left joining. -/
  | take (hf : a.stage = .fresh) (hh : lock.holder = none) (hj : a'.stage.isJoining = true)
      (hl : lock' = { lock with holder := some i })
  /-- The waiting holder starts and is left joining. -/
  | start (hw : a.stage = .waiting) (hh : lock.holder = some i) (hj : a'.stage.isJoining = true)
      (hl : lock' = lock)
  /-- A fresh attempt on a free link, or the holder, finishes; the link passes on. -/
  | finish (hh : (a.stage = .fresh ∧ lock.holder = none) ∨ (a.stage.isQueued = true ∧ lock.holder = some i))
      (hf : a'.stage.isFinished = true) (hl : lock' = LinkLock.next lock.waiters)

namespace LineStep

variable {lock lock' : LinkLock} {i : Nat} {a a' : Attempt}

theorem not_fresh (hs : LineStep lock i a lock' a') : a'.stage.isFresh = false := by
  cases hs with
  | stay hnf _ ha => rw [ha]; exact hnf
  | queue _ _ hw _ => rw [hw]; rfl
  | take _ _ hj _ | start _ _ hj _ =>
    exact AttemptStage.isFresh_of_isQueued (AttemptStage.isQueued_of_isJoining hj)
  | finish _ hf _ => exact AttemptStage.isFresh_of_isFinished hf

end LineStep

namespace Host

/-- What a visit does to the line, for an attempt that joins only while it holds the link. -/
theorem visitAttempt_line (h : Host) (lock : LinkLock) (i : Nat) (a : Attempt)
    (hjh : a.stage.isJoining = true → lock.holder = some i) :
    LineStep lock i a (h.visitAttempt lock i a).2.1 (h.visitAttempt lock i a).2.2 := by
  obtain ⟨endpoint, token, stage⟩ := a
  cases stage with
  | finished r => exact .stay rfl rfl rfl
  | fresh =>
    unfold visitAttempt stepAttempt
    dsimp only
    cases hh : lock.holder with
    | none =>
      -- the link is free: the attempt takes it, and may finish at once
      dsimp only
      rcases beginHolding_stage _ _ with hf | hj
      · exact .finish (.inl ⟨rfl, hh⟩) hf (release_of_holder hf rfl)
      · exact .take rfl hh hj (release_of_unfinished _ _ (AttemptStage.isFinished_of_isJoining hj))
    | some m =>
      dsimp only
      exact .queue rfl (by rw [hh]; rfl) rfl (by rw [release_of_unfinished _ _ rfl, hh])
  | waiting =>
    unfold visitAttempt stepAttempt
    dsimp only
    by_cases hh : lock.holder = some i
    · rw [if_pos (by rw [hh]; exact beq_self_eq_true _)]
      rcases beginHolding_stage _ _ with hf | hj
      · exact .finish (.inr ⟨rfl, hh⟩) hf (release_of_holder hf hh)
      · exact .start rfl hh hj (release_of_unfinished _ _ (AttemptStage.isFinished_of_isJoining hj))
    · rw [if_neg (fun hb => hh (beq_iff_eq.mp hb))]
      exact .stay rfl (release_of_unfinished _ _ rfl) rfl
  | joining ssid deadline =>
    have hh := hjh rfl
    unfold visitAttempt stepAttempt
    dsimp only
    by_cases hs : token < h.generation
    · -- superseded while joining: the network is left and the attempt cancelled
      rw [if_pos hs]
      exact .finish (.inr ⟨rfl, hh⟩) rfl (release_of_holder rfl hh)
    · rw [if_neg hs]
      by_cases hd : deadline ≤ h.clock
      · rw [if_pos hd]
        have hf := openChannel_finished h ⟨endpoint, token, .joining ssid deadline⟩ (some ssid)
        exact .finish (.inr ⟨rfl, hh⟩) hf (release_of_holder hf hh)
      · rw [if_neg hd]
        exact .stay rfl (release_of_unfinished _ _ rfl) rfl

end Host

/-! ## The line between visits -/

/-- How connect attempts stand in line for the link. -/
structure LinkQueue (lock : LinkLock) (as : List Attempt) : Prop where
  /-- The attempts waiting or joining are exactly the holder and the waiters. -/
  queued : ∀ k, k ∈ lock.line ↔ ∃ a, as[k]? = some a ∧ a.stage.isQueued = true
  /-- Only the holder joins a portal network. -/
  joining : ∀ (k : Nat) (a : Attempt), as[k]? = some a → a.stage.isJoining = true →
    lock.holder = some k
  /-- The line keeps the order the attempts began in. -/
  ordered : lock.line.Pairwise (· < ·)
  /-- Nobody waits on a free link. -/
  free : lock.holder = none → lock.waiters = []
  /-- The attempts not yet begun come after every attempt that began. -/
  freshLast : ∀ (j k : Nat) (a b : Attempt), j < k → as[j]? = some a → as[k]? = some b →
    a.stage.isFresh = true → b.stage.isFresh = true

/-- Attempts that have not begun stand in line as they should, with the link free. -/
theorem linkQueue_fresh (endpoints : List Endpoint) :
    LinkQueue {} (endpoints.map fun e => { endpoint := e }) where
  queued k := by
    simp only [LinkLock.line, Option.toList_none, List.nil_append, List.not_mem_nil, false_iff]
    rintro ⟨a, ha, hq⟩
    rw [List.getElem?_map] at ha
    obtain ⟨e, -, rfl⟩ := Option.map_eq_some_iff.mp ha
    cases hq
  joining k a ha hj := by
    rw [List.getElem?_map] at ha
    obtain ⟨e, -, rfl⟩ := Option.map_eq_some_iff.mp ha
    cases hj
  ordered := List.Pairwise.nil
  free _ := rfl
  freshLast j k a b _ _ hb _ := by
    rw [List.getElem?_map] at hb
    obtain ⟨e, -, rfl⟩ := Option.map_eq_some_iff.mp hb
    rfl

namespace LinkQueue

variable {lock lock' : LinkLock} {as : List Attempt} {i : Nat} {a a' : Attempt}

theorem line_of_free (hq : LinkQueue lock as) (hn : lock.holder = none) : lock.line = [] := by
  simp [LinkLock.line, hn, hq.free hn]

/-- An attempt in line that is not the holder began after it. -/
theorem holder_lt (hq : LinkQueue lock as) (hh : lock.holder = some i) {k : Nat}
    (hk : k ∈ lock.waiters) : i < k := by
  have hp := hq.ordered
  simp only [LinkLock.line, hh, Option.toList_some, List.singleton_append, List.pairwise_cons] at hp
  exact hp.1 k hk

/-- The attempts in line began before a fresh one. -/
theorem lt_of_fresh (hq : LinkQueue lock as) (hi : as[i]? = some a) (hf : a.stage.isFresh = true)
    {k : Nat} (hk : k ∈ lock.line) : k < i := by
  obtain ⟨b, hb, hbq⟩ := (hq.queued k).mp hk
  have hbf := AttemptStage.isFresh_of_isQueued hbq
  rcases Nat.lt_trichotomy k i with hlt | rfl | hgt
  · exact hlt
  · rw [hi] at hb
    cases hb
    rw [hf] at hbf
    cases hbf
  · rw [hq.freshLast i k a b hgt hi hb hf] at hbf
    cases hbf

section Step

variable (hq : LinkQueue lock as) (hi : as[i]? = some a)
  (hpre : ∀ (j : Nat) (b : Attempt), j < i → as[j]? = some b → b.stage.isFresh = false)
include hq hi

omit hq in
theorem getElem?_set_of (k : Nat) : (as.set i a')[k]? = if k = i then some a' else as[k]? := by
  have hlt : i < as.length := (List.getElem?_eq_some_iff.mp hi).1
  by_cases hk : k = i
  · subst hk
    rw [if_pos rfl, List.getElem?_set_self hlt]
  · rw [if_neg hk, List.getElem?_set_ne (Ne.symm hk)]

/-- The attempts in line after a visit, from how the line and the attempt changed. -/
theorem queued_set (hk : ∀ k, k ≠ i → (k ∈ lock'.line ↔ k ∈ lock.line))
    (hself : i ∈ lock'.line ↔ a'.stage.isQueued = true) :
    ∀ k, k ∈ lock'.line ↔ ∃ b, (as.set i a')[k]? = some b ∧ b.stage.isQueued = true := by
  intro k
  rw [getElem?_set_of hi k]
  by_cases hki : k = i
  · subst hki
    simp [hself]
  · rw [if_neg hki, hk k hki]
    exact hq.queued k

/-- Whether an attempt began, after a visit that leaves it begun. -/
theorem freshLast_set (hpre' : ∀ (j : Nat) (b : Attempt), j < i → as[j]? = some b → b.stage.isFresh = false)
    (ha' : a'.stage.isFresh = false) :
    ∀ (j k : Nat) (b c : Attempt), j < k → (as.set i a')[j]? = some b → (as.set i a')[k]? = some c →
      b.stage.isFresh = true → c.stage.isFresh = true := by
  intro j k b c hjk hj hk hb
  rw [getElem?_set_of hi] at hj hk
  by_cases hji : j = i
  · rw [if_pos hji] at hj
    cases hj
    rw [ha'] at hb
    cases hb
  · rw [if_neg hji] at hj
    by_cases hki : k = i
    · -- everything before the visited attempt has begun
      subst hki
      rw [hpre' j b hjk hj] at hb
      cases hb
    · rw [if_neg hki] at hk
      exact hq.freshLast j k b c hjk hj hk hb

omit hq in
theorem set_self : as.set i a = as := by
  have ⟨hlt, he⟩ := List.getElem?_eq_some_iff.mp hi
  rw [← he]
  exact List.set_getElem_self hlt

end Step

/-- Every visit keeps the attempts in line. -/
theorem step (hq : LinkQueue lock as) (hi : as[i]? = some a)
    (hpre : ∀ (j : Nat) (b : Attempt), j < i → as[j]? = some b → b.stage.isFresh = false)
    (hs : LineStep lock i a lock' a') : LinkQueue lock' (as.set i a') := by
  have hfr := hq.freshLast_set hi hpre hs.not_fresh
  cases hs with
  | stay _ hl ha =>
    subst lock' a'
    rw [set_self hi]
    exact hq
  | queue hf hh hw hl =>
    subst hl
    have hfa : a.stage.isFresh = true := by rw [hf]; rfl
    have hline : ({ lock with waiters := lock.waiters ++ [i] } : LinkLock).line = lock.line ++ [i] := by
      simp [LinkLock.line]
    refine ⟨hq.queued_set hi ?_ ?_, ?_, ?_, ?_, hfr⟩
    · intro k hk
      simp [hline, hk]
    · simp [hline, hw, AttemptStage.isQueued]
    · intro k b hb hj
      rw [getElem?_set_of hi] at hb
      by_cases hki : k = i
      · rw [if_pos hki] at hb
        cases hb
        rw [hw] at hj
        cases hj
      · rw [if_neg hki] at hb
        exact hq.joining k b hb hj
    · -- the new waiter began after everyone in line
      rw [hline, List.pairwise_append]
      refine ⟨hq.ordered, List.pairwise_singleton _ _, fun k hk x hx => ?_⟩
      rw [List.mem_singleton] at hx
      subst hx
      exact hq.lt_of_fresh hi hfa hk
    · intro hn
      rw [hn] at hh
      cases hh
  | take hf hh hj hl =>
    subst hl
    have hfa : a.stage.isFresh = true := by rw [hf]; rfl
    have hempty := hq.line_of_free hh
    have hline : ({ lock with holder := some i } : LinkLock).line = [i] := by
      simp [LinkLock.line, hq.free hh]
    refine ⟨hq.queued_set hi ?_ ?_, ?_, ?_, ?_, hfr⟩
    · intro k hk
      simp [hline, hempty, hk]
    · simp [hline, AttemptStage.isQueued_of_isJoining hj]
    · intro k b hb hjb
      rw [getElem?_set_of hi] at hb
      by_cases hki : k = i
      · rw [hki]
      · rw [if_neg hki] at hb
        rw [hq.joining k b hb hjb] at hh
        cases hh
    · rw [hline]
      exact List.pairwise_singleton _ _
    · intro hn
      cases hn
  | start hw hh hj hl =>
    subst lock'
    have hin : i ∈ lock.line := by simp [LinkLock.line, hh]
    refine ⟨hq.queued_set hi (fun _ _ => Iff.rfl) ?_, ?_, hq.ordered, hq.free, hfr⟩
    · simp [hin, AttemptStage.isQueued_of_isJoining hj]
    · intro k b hb hjb
      rw [getElem?_set_of hi] at hb
      by_cases hki : k = i
      · rw [hki, hh]
      · rw [if_neg hki] at hb
        exact hq.joining k b hb hjb
  | finish hh hf hl =>
    subst hl
    -- the line after is the waiters, and the finished attempt is not among them
    have hout : i ∉ lock.waiters ∧ (∀ k, k ≠ i → (k ∈ lock.waiters ↔ k ∈ lock.line)) ∧
        ∀ (k : Nat) (b : Attempt), k ≠ i → as[k]? = some b → b.stage.isJoining = false := by
      rcases hh with ⟨_, hn⟩ | ⟨_, hh⟩
      · have hw := hq.free hn
        refine ⟨by simp [hw], fun k _ => by simp [LinkLock.line, hn, hw], fun k b _ hb => ?_⟩
        cases hjb : b.stage.isJoining
        · rfl
        · rw [hq.joining k b hb hjb] at hn
          cases hn
      · refine ⟨fun hk => absurd (hq.holder_lt hh hk) (Nat.lt_irrefl i), fun k hk => ?_,
          fun k b hk hb => ?_⟩
        · simp [LinkLock.line, hh, hk]
        · cases hjb : b.stage.isJoining
          · rfl
          · have := hq.joining k b hb hjb
            rw [hh, Option.some.injEq] at this
            exact absurd this.symm hk
    obtain ⟨hnot, hmem, hnj⟩ := hout
    refine ⟨hq.queued_set hi (fun k hk => by rw [LinkLock.line_next]; exact hmem k hk) ?_, ?_, ?_,
      LinkLock.next_free, hfr⟩
    · simp [hnot, AttemptStage.isQueued_of_isFinished hf]
    · intro k b hb hjb
      rw [getElem?_set_of hi] at hb
      by_cases hki : k = i
      · rw [if_pos hki] at hb
        cases hb
        rw [AttemptStage.isFinished_of_isJoining hjb] at hf
        cases hf
      · rw [if_neg hki] at hb
        rw [hnj k b hki hb] at hjb
        cases hjb
    · rw [LinkLock.line_next]
      exact hq.ordered.sublist (List.sublist_append_right _ _)

/-- An attempt finishes only once every attempt begun before it has finished. -/
theorem prior_finished (hq : LinkQueue lock as) (hi : as[i]? = some a)
    (hpre : ∀ (j : Nat) (b : Attempt), j < i → as[j]? = some b → b.stage.isFresh = false)
    (hs : LineStep lock i a lock' a') (hu : a.stage.isFinished = false)
    (hf : a'.stage.isFinished = true) :
    ∀ (j : Nat) (b : Attempt), j < i → as[j]? = some b → b.stage.isFinished = true := by
  intro j b hj hb
  have hbf := hpre j b hj hb
  refine AttemptStage.finished_of_not hbf ?_
  cases hbq : b.stage.isQueued
  · rfl
  · -- an earlier attempt in line would stand before the finishing one
    have hmem := (hq.queued j).mpr ⟨b, hb, hbq⟩
    cases hs with
    | stay _ _ ha =>
      rw [← ha, hf] at hu
      cases hu
    | queue _ _ hw _ =>
      rw [hw] at hf
      cases hf
    | take _ _ hj' _ | start _ _ hj' _ =>
      rw [AttemptStage.isFinished_of_isJoining hj'] at hf
      cases hf
    | finish hh _ _ =>
      rcases hh with ⟨_, hn⟩ | ⟨_, hh⟩
      · rw [hq.line_of_free hn] at hmem
        cases hmem
      · simp only [LinkLock.line, hh, Option.toList_some, List.singleton_append,
          List.mem_cons] at hmem
        rcases hmem with rfl | hw
        · exact absurd hj (Nat.lt_irrefl j)
        · exact absurd (hq.holder_lt hh hw) (Nat.lt_asymm hj)

/-- While an attempt is unfinished, one can move, or one is joining a network. -/
theorem can_move (hq : LinkQueue lock as) (h : Host) {k : Nat} (hk : as[k]? = some a)
    (hu : a.stage.isFinished = false) :
    (∃ p ∈ as.zipIdx, h.canStep lock p.2 p.1 = true) ∨ ∃ b ∈ as, b.stage.isJoining = true := by
  rcases AttemptStage.cases_fresh_queued_finished a.stage with hf | hqd | hfin
  · -- a fresh attempt can always begin
    left
    refine ⟨(a, k), List.mem_zipIdx_iff_getElem?.mpr hk, ?_⟩
    have hs : a.stage = .fresh := by
      cases hs : a.stage <;> rw [hs] at hf <;> first | rfl | cases hf
    simp [Host.canStep, hs]
  · -- someone holds the link: it can start, or it is joining
    have hmem := (hq.queued k).mpr ⟨a, hk, hqd⟩
    cases hh : lock.holder with
    | none => rw [hq.line_of_free hh] at hmem; cases hmem
    | some m =>
      have hm : m ∈ lock.line := by simp [LinkLock.line, hh]
      obtain ⟨b, hb, hbq⟩ := (hq.queued m).mp hm
      have hbmem : b ∈ as := List.mem_of_getElem? hb
      cases hs : b.stage with
      | waiting =>
        left
        refine ⟨(b, m), List.mem_zipIdx_iff_getElem?.mpr hb, ?_⟩
        simp [Host.canStep, hs, hh]
      | joining ssid deadline => exact .inr ⟨b, hbmem, by rw [hs]; rfl⟩
      | fresh => rw [hs] at hbq; cases hbq
      | finished r => rw [hs] at hbq; cases hbq
  · rw [hfin] at hu
    cases hu

end LinkQueue

/-! ## A pass over the attempts -/

namespace LinkQueue

variable {lock : LinkLock} {done rest : List Attempt} {a : Attempt}

/-- Visiting the attempt after a begun prefix keeps the line, leaves the attempt begun, and
finishes it only once the whole prefix has finished. -/
theorem visit (h : Host) (hq : LinkQueue lock (done ++ a :: rest))
    (hd : ∀ b ∈ done, b.stage.isFresh = false) :
    LinkQueue (h.visitAttempt lock done.length a).2.1
        (done ++ [(h.visitAttempt lock done.length a).2.2] ++ rest) ∧
      (h.visitAttempt lock done.length a).2.2.stage.isFresh = false ∧
      (a.stage.isFinished = false → (h.visitAttempt lock done.length a).2.2.stage.isFinished = true →
        ∀ b ∈ done, b.stage.isFinished = true) := by
  have hi : (done ++ a :: rest)[done.length]? = some a := by simp
  have hpre : ∀ (j : Nat) (b : Attempt), j < done.length → (done ++ a :: rest)[j]? = some b →
      b.stage.isFresh = false := by
    intro j b hj hb
    rw [List.getElem?_append_left hj] at hb
    exact hd b (List.mem_of_getElem? hb)
  have hs := Host.visitAttempt_line h lock done.length a (hq.joining done.length a hi)
  have hq₁ := hq.step hi hpre hs
  rw [List.set_append_right _ _ (le_refl _), Nat.sub_self, List.set_cons_zero,
    ← List.singleton_append, ← List.append_assoc] at hq₁
  refine ⟨hq₁, hs.not_fresh, fun hu hf b hb => ?_⟩
  obtain ⟨j, hj, hbj⟩ := List.getElem_of_mem hb
  refine hq.prior_finished hi hpre hs hu hf j b hj ?_
  rw [List.getElem?_append_left hj, List.getElem?_eq_getElem hj, hbj]

end LinkQueue

namespace Host

theorem stepAll_length (as : List Attempt) :
    ∀ (h : Host) (lock : LinkLock) (i : Nat), (h.stepAll lock i as).2.2.length = as.length := by
  induction as with
  | nil => intro h lock i; rfl
  | cons a rest ih =>
    intro h lock i
    rw [stepAll_cons, List.length_cons, List.length_cons, ih]

/-- A pass over the attempts after `done` keeps them in line and leaves every one begun. -/
theorem stepAll_queue (rest : List Attempt) :
    ∀ (done : List Attempt) (h : Host) (lock : LinkLock),
      LinkQueue lock (done ++ rest) → (∀ b ∈ done, b.stage.isFresh = false) →
      LinkQueue (h.stepAll lock done.length rest).2.1 (done ++ (h.stepAll lock done.length rest).2.2) ∧
        ∀ b ∈ (h.stepAll lock done.length rest).2.2, b.stage.isFresh = false := by
  induction rest with
  | nil => intro done h lock hq _; exact ⟨hq, by simp [stepAll]⟩
  | cons a rest ih =>
    intro done h lock hq hd
    -- the visit keeps the line; the rest of the pass goes on from the next index
    obtain ⟨hq₁, hnf, -⟩ := hq.visit h hd
    have hd₁ : ∀ b ∈ done ++ [(h.visitAttempt lock done.length a).2.2], b.stage.isFresh = false := by
      intro b hb
      rcases List.mem_append.mp hb with hb | hb
      · exact hd b hb
      · rw [List.mem_singleton.mp hb]
        exact hnf
    have hrest := ih _ (h.visitAttempt lock done.length a).1 _ hq₁ hd₁
    rw [List.length_append, List.length_singleton, List.append_assoc, List.singleton_append] at hrest
    rw [stepAll_cons]
    refine ⟨hrest.1, ?_⟩
    intro b hb
    rcases List.mem_cons.mp hb with rfl | hb
    · exact hnf
    · exact hrest.2 b hb

end Host

end Tether
