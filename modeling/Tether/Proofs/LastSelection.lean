import Tether.Proofs.LinkLine
/-!
# Proofs.LastSelection — the last operation to begin decides the session

Every connect begins by counting itself (`Host.generation`), and an attempt begun under an
earlier count has been superseded.  One visit of an attempt (`Host.visitAttempt`):

* cancels a superseded attempt once it holds the link, after letting go of what it took —
  the link passes on, a joined portal network is left — and starts nothing over
  (`visitAttempt_superseded`);
* starts provisioning over only for an attempt that fails on its own, which no newer
  connect or disconnect had superseded (`visitAttempt_reseeds`).

With the attempts standing in line for the link (`Proofs.LinkLine`), the newest attempt of
a pass is the last to finish, with a failure of its own (`stepAll_newest`), and so of every
round (`runAttempts_newest`): its start-over is the last thing a connect does to
provisioning.  So a connect leaves the host `Released`: no session active, the link
disconnected, provisioning unconfigured and the saved selection as it was
(`connectAll_newest`); a disconnect, forgetting the device with no session active, and the
expiry of the active session leave the same (`disconnect_released`, `forgetDevice_released`,
`housekeep_released`).
-/

namespace Tether

set_option autoImplicit false

namespace Host

/-! ## The count of connects begun -/

section Generation

variable (h : Host)

@[simp] theorem noteJoiner_generation (call : String) :
    (h.noteJoiner call).generation = h.generation := by
  obtain ⟨j, hj⟩ := h.noteJoiner_eq call
  rw [hj]

@[simp] theorem openChannel_generation (a : Attempt) (portal : Option String) :
    (h.openChannel a portal).1.generation = h.generation := by
  unfold openChannel failAttempt leavePortal
  dsimp only
  split <;> simp

@[simp] theorem beginHolding_generation (a : Attempt) :
    (h.beginHolding a).1.generation = h.generation := by
  unfold beginHolding
  split
  · rfl
  · dsimp only
    split
    · simp
    · split <;> split <;> (try split) <;> simp [failAttempt, leavePortal]

@[simp] theorem afterAttempt_generation (a : Attempt) :
    (h.afterAttempt a).generation = h.generation := by
  unfold afterAttempt reseed publishProvisioning
  split <;> simp

end Generation

/-! ## How one visit ends an attempt -/

/-- Opening the control channel fails, and never as a cancellation. -/
theorem dialFailure_ne_cancelled (url : String) (connectTimeoutMs : Nat) :
    dialFailure url connectTimeoutMs ≠ .cancelled := by
  unfold dialFailure
  split
  · exact LinkError.noConfusion
  · split
    · exact LinkError.noConfusion
    · split
      · exact LinkError.noConfusion
      · split
        · exact LinkError.noConfusion
        · dsimp only
          split
          · exact LinkError.noConfusion
          · split
            · exact LinkError.noConfusion
            · split <;> exact LinkError.noConfusion

section Visit

variable (h : Host)

theorem openChannel_stage (a : Attempt) (portal : Option String) :
    ∃ e, e ≠ .cancelled ∧ (h.openChannel a portal).2 = .finished (.error e) := by
  unfold openChannel failAttempt
  exact ⟨_, dialFailure_ne_cancelled _ _, rfl⟩

/-- Taking the link, an attempt that nothing newer superseded fails on its own or is left
joining; one that was superseded is cancelled and changes nothing. -/
theorem beginHolding_current (a : Attempt) (hcur : ¬ a.token < h.generation) :
    (∃ e, e ≠ .cancelled ∧ (h.beginHolding a).2 = .finished (.error e)) ∨
      (h.beginHolding a).2.isJoining = true := by
  simp only [beginHolding, if_neg hcur]
  split
  · exact .inl (openChannel_stage _ _ _)
  · split <;> split <;> (try split)
    all_goals first
      | exact .inl ⟨_, LinkError.noConfusion, rfl⟩
      | exact .inr rfl
      | exact .inl (openChannel_stage _ _ _)

variable (lock : LinkLock) (i : Nat)

/-- A fresh attempt begins: one more connect is counted, and the attempt carries that count. -/
theorem stepAttempt_fresh {a : Attempt} (hf : a.stage = .fresh) :
    (h.stepAttempt lock i a).1.generation = h.generation + 1 ∧
      (h.stepAttempt lock i a).2.2.token = h.generation + 1 := by
  obtain ⟨endpoint, token, stage⟩ := a
  cases hf
  unfold stepAttempt
  dsimp only
  cases lock.holder <;> simp

/-- An attempt that has begun steps under the same count, and keeps its own. -/
theorem stepAttempt_begun {a : Attempt} (hb : a.stage.isFresh = false) :
    (h.stepAttempt lock i a).1.generation = h.generation ∧
      (h.stepAttempt lock i a).2.2.token = a.token := by
  obtain ⟨endpoint, token, stage⟩ := a
  cases stage with
  | fresh => cases hb
  | finished r => exact ⟨rfl, rfl⟩
  | waiting =>
    unfold stepAttempt
    dsimp only
    split <;> simp
  | joining ssid deadline =>
    unfold stepAttempt
    dsimp only
    split
    · simp [failAttempt, leavePortal]
    · split <;> simp

/-- A step ends an attempt only with a failure; one that is fresh, or that nothing newer
superseded, fails on its own and is not cancelled. -/
theorem stepAttempt_failure {a : Attempt} (hu : a.stage.isFinished = false)
    (hf : (h.stepAttempt lock i a).2.2.stage.isFinished = true) :
    ∃ e, (h.stepAttempt lock i a).2.2.stage = .finished (.error e) ∧
      (a.stage = .fresh ∨ ¬ a.token < h.generation → e ≠ .cancelled) := by
  obtain ⟨endpoint, token, stage⟩ := a
  cases stage with
  | finished r => cases hu
  | fresh =>
    unfold stepAttempt at hf ⊢
    dsimp only at hf ⊢
    cases hh : lock.holder with
    | some m =>
      rw [hh] at hf
      simp [AttemptStage.isFinished] at hf
    | none =>
      rw [hh] at hf
      dsimp only at hf ⊢
      -- the fresh attempt carries the newest count, so it is not superseded
      rcases beginHolding_current { h with generation := h.generation + 1 }
          { endpoint, token := h.generation + 1 } (Nat.lt_irrefl _) with
        ⟨e, he, hs⟩ | hj
      · exact ⟨e, hs, fun _ => he⟩
      · rw [AttemptStage.isFinished_of_isJoining hj] at hf
        cases hf
  | waiting =>
    unfold stepAttempt at hf ⊢
    dsimp only at hf ⊢
    split at hf
    · rw [if_pos ‹_›]
      by_cases hs : token < h.generation
      · rw [beginHolding_superseded h _ hs]
        refine ⟨.cancelled, rfl, fun hcur => ?_⟩
        rcases hcur with hcur | hcur
        · cases hcur
        · exact absurd hs hcur
      · rcases beginHolding_current h ⟨endpoint, token, .waiting⟩ hs with ⟨e, he, hb⟩ | hj
        · exact ⟨e, hb, fun _ => he⟩
        · rw [AttemptStage.isFinished_of_isJoining hj] at hf
          cases hf
    · cases hf
  | joining ssid deadline =>
    unfold stepAttempt at hf ⊢
    dsimp only at hf ⊢
    by_cases hs : token < h.generation
    · rw [if_pos hs]
      refine ⟨.cancelled, rfl, fun hcur => ?_⟩
      rcases hcur with hcur | hcur
      · cases hcur
      · exact absurd hs hcur
    · rw [if_neg hs] at hf ⊢
      split at hf
      · rw [if_pos ‹_›]
        obtain ⟨e, he, hc⟩ := openChannel_stage h ⟨endpoint, token, .joining ssid deadline⟩ (some ssid)
        exact ⟨e, hc, fun _ => he⟩
      · cases hf

/-- A superseded attempt that has begun: still waiting for the link, it waits on; holding
it, it is cancelled, the host left as it was or the joined portal network left again. -/
theorem stepAttempt_superseded {a : Attempt} (hb : a.stage.isFresh = false)
    (hs : a.token < h.generation) :
    h.stepAttempt lock i a = (h, lock, a) ∨
      ((h.stepAttempt lock i a).2.2.stage = .finished (.error .cancelled) ∧
        (h.stepAttempt lock i a).2.1 = lock ∧
        ((h.stepAttempt lock i a).1 = h ∨
          ∃ ssid, (h.stepAttempt lock i a).1 = (h.leavePortal ssid).setLink .disconnected)) := by
  obtain ⟨endpoint, token, stage⟩ := a
  cases stage with
  | fresh => cases hb
  | finished r => exact .inl rfl
  | waiting =>
    unfold stepAttempt
    dsimp only
    split
    · rw [beginHolding_superseded h _ hs]
      exact .inr ⟨rfl, rfl, .inl rfl⟩
    · exact .inl rfl
  | joining ssid deadline =>
    unfold stepAttempt
    dsimp only
    rw [if_pos hs]
    exact .inr ⟨rfl, rfl, .inr ⟨ssid, rfl⟩⟩

/-- A visit leaves the attempt as its step does. -/
theorem visitAttempt_snd (a : Attempt) :
    (h.visitAttempt lock i a).2.2 = (h.stepAttempt lock i a).2.2 := by
  unfold visitAttempt
  split
  · rename_i r hs
    simp [stepAttempt, hs]
  · rfl

/-- A visit counts the connects its step counts: starting provisioning over counts none. -/
theorem visitAttempt_generation (a : Attempt) :
    (h.visitAttempt lock i a).1.generation = (h.stepAttempt lock i a).1.generation := by
  unfold visitAttempt
  split
  · rename_i r hs
    simp [stepAttempt, hs]
  · dsimp only
    split <;> simp

/-- A visit that finishes an attempt leaves provisioning what the finished attempt needs. -/
theorem visitAttempt_fst_of_finished {a : Attempt} (hu : a.stage.isFinished = false)
    (hf : (h.stepAttempt lock i a).2.2.stage.isFinished = true) :
    (h.visitAttempt lock i a).1 =
      (h.stepAttempt lock i a).1.afterAttempt (h.stepAttempt lock i a).2.2 := by
  unfold visitAttempt
  split
  · rename_i r hs
    rw [hs] at hu
    cases hu
  · dsimp only
    split
    · rfl
    · rename_i hnf
      cases hs : (h.stepAttempt lock i a).2.2.stage with
      | finished r => exact absurd hs (hnf r)
      | _ => rw [hs] at hf; cases hf

theorem afterAttempt_of_failure {a : Attempt} {e : LinkError} (hs : a.stage = .finished (.error e))
    (he : e ≠ .cancelled) : h.afterAttempt a = h.reseed none := by
  unfold afterAttempt
  split
  · rename_i heq
    rw [hs] at heq
    cases heq
    exact absurd rfl he
  · rfl
  · rename_i _ hno
    exact absurd hs (hno e)

theorem afterAttempt_of_cancelled {a : Attempt} (hs : a.stage = .finished (.error .cancelled)) :
    h.afterAttempt a = h := by
  unfold afterAttempt
  rw [hs]

/-- Starting over with no session leaves an unconfigured device. -/
@[simp] theorem reseed_none_provisioning : (h.reseed none).provisioning = .unconfigured := by
  rw [reseed_provisioning]
  rfl

/-- A visit that ends an attempt with a failure of its own starts provisioning over. -/
theorem visitAttempt_unconfigured {a : Attempt} {e : LinkError} (hu : a.stage.isFinished = false)
    (hs : (h.stepAttempt lock i a).2.2.stage = .finished (.error e)) (he : e ≠ .cancelled) :
    (h.visitAttempt lock i a).1.provisioning = .unconfigured := by
  have hf : (h.stepAttempt lock i a).2.2.stage.isFinished = true := by
    rw [hs]
    rfl
  rw [visitAttempt_fst_of_finished h lock i hu hf, afterAttempt_of_failure _ hs he]
  exact reseed_none_provisioning _

/-- A visit of an attempt not begun, or begun under the current count, leaves it under the
current count. -/
theorem visitAttempt_current {a : Attempt} (hcur : a.stage = .fresh ∨ ¬ a.token < h.generation) :
    ¬ (h.visitAttempt lock i a).2.2.token < (h.visitAttempt lock i a).1.generation := by
  rw [visitAttempt_snd, visitAttempt_generation]
  by_cases hfr : a.stage = .fresh
  · rw [(stepAttempt_fresh h lock i hfr).1, (stepAttempt_fresh h lock i hfr).2]
    exact Nat.lt_irrefl _
  · have hb := AttemptStage.isFresh_eq_false_iff.mpr hfr
    rw [(stepAttempt_begun h lock i hb).1, (stepAttempt_begun h lock i hb).2]
    exact hcur.resolve_left hfr

/-- An attempt that fails on its own had not been superseded. -/
theorem current_of_failure {a : Attempt} {e : LinkError} (hu : a.stage.isFinished = false)
    (hs : (h.stepAttempt lock i a).2.2.stage = .finished (.error e)) (he : e ≠ .cancelled) :
    a.stage = .fresh ∨ ¬ a.token < h.generation := by
  by_cases hfr : a.stage = .fresh
  · exact .inl hfr
  · refine .inr fun hsup => ?_
    rcases stepAttempt_superseded h lock i (AttemptStage.isFresh_eq_false_iff.mpr hfr) hsup with
      hstay | ⟨hc, -, -⟩
    · simp only [hstay] at hs
      rw [hs] at hu
      cases hu
    · rw [hs] at hc
      cases hc
      exact he rfl

theorem visitAttempt_of_finished {a : Attempt} (hf : a.stage.isFinished = true) :
    h.visitAttempt lock i a = (h, lock, a) := by
  unfold visitAttempt
  split
  · rfl
  · rename_i hnf
    cases hs : a.stage with
    | finished r => exact absurd hs (hnf r)
    | _ => rw [hs] at hf; cases hf

/-- A visit that leaves the attempt where it was leaves the host and the lock too. -/
theorem visitAttempt_of_stay {a : Attempt} (hstay : h.stepAttempt lock i a = (h, lock, a)) :
    h.visitAttempt lock i a = (h, lock, a) := by
  unfold visitAttempt
  split
  · rfl
  · rename_i hnf
    rw [hstay]
    dsimp only
    have hu : a.stage.isFinished = false := by
      cases hs : a.stage with
      | finished r => exact absurd hs (hnf r)
      | _ => rfl
    rw [release_of_unfinished lock i hu]
    split
    · rename_i r hs
      exact absurd hs (hnf r)
    · rfl

/-- A superseded attempt that has begun, and joins a network only while holding the link:
still waiting for the link, it waits on; holding it, it is cancelled after letting go of what
it took (the link passes to the first waiter, a joined portal network is left again), and
starts nothing over. -/
theorem visitAttempt_superseded {a : Attempt} (hb : a.stage.isFresh = false)
    (hs : a.token < h.generation) (hjh : a.stage.isJoining = true → lock.holder = some i) :
    h.visitAttempt lock i a = (h, lock, a) ∨
      ((h.visitAttempt lock i a).2.2.stage = .finished (.error .cancelled) ∧
        (h.visitAttempt lock i a).2.1 = LinkLock.next lock.waiters ∧
        ((h.visitAttempt lock i a).1 = h ∨
          ∃ ssid, (h.visitAttempt lock i a).1 = (h.leavePortal ssid).setLink .disconnected)) := by
  cases hu : a.stage.isFinished
  · rcases stepAttempt_superseded h lock i hb hs with hstay | ⟨hc, -, hhost⟩
    · exact .inl (visitAttempt_of_stay h lock i hstay)
    · have hfin : (h.stepAttempt lock i a).2.2.stage.isFinished = true := by
        rw [hc]
        rfl
      refine .inr ⟨by rw [visitAttempt_snd]; exact hc, ?_, ?_⟩
      · -- the cancelled attempt held the link, which passes on
        cases visitAttempt_line h lock i a hjh with
        | stay _ _ ha =>
          rw [visitAttempt_snd] at ha
          rw [ha] at hc
          rw [hc] at hu
          cases hu
        | queue hf => rw [hf] at hb; cases hb
        | take hf => rw [hf] at hb; cases hb
        | start _ _ hj =>
          rw [visitAttempt_snd, hc] at hj
          cases hj
        | finish _ _ hl => exact hl
      · rw [visitAttempt_fst_of_finished h lock i hu hfin, afterAttempt_of_cancelled _ hc]
        exact hhost
  · exact .inl (visitAttempt_of_finished h lock i hu)

/-- A visit changes provisioning only by starting it over, and only when the attempt fails on
its own under the current count: an attempt a newer connect or a disconnect has superseded
never starts provisioning over. -/
theorem visitAttempt_reseeds (a : Attempt) :
    (h.visitAttempt lock i a).1.provisioning = h.provisioning ∨
      ((∃ e, (h.visitAttempt lock i a).2.2.stage = .finished (.error e) ∧ e ≠ .cancelled) ∧
        ¬ (h.visitAttempt lock i a).2.2.token < (h.visitAttempt lock i a).1.generation ∧
        (h.visitAttempt lock i a).1.provisioning = .unconfigured) := by
  cases hu : a.stage.isFinished
  · cases hf : (h.stepAttempt lock i a).2.2.stage.isFinished
    · -- still open: only the step ran
      left
      unfold visitAttempt
      split
      · rfl
      · dsimp only
        split
        · rename_i r hs
          rw [hs] at hf
          cases hf
        · exact stepAttempt_provisioning _ _ _ _
    · obtain ⟨e, hs, -⟩ := stepAttempt_failure h lock i hu hf
      by_cases he : e = .cancelled
      · subst he
        left
        rw [visitAttempt_fst_of_finished h lock i hu hf, afterAttempt_of_cancelled _ hs,
          stepAttempt_provisioning]
      · exact .inr ⟨⟨e, by rw [visitAttempt_snd]; exact hs, he⟩,
          visitAttempt_current h lock i (current_of_failure h lock i hu hs he),
          visitAttempt_unconfigured h lock i hu hs he⟩
  · left
    rw [visitAttempt_of_finished h lock i hu]

end Visit

/-! ## The newest attempt finishes last -/

/-- An attempt before a begun one has begun. -/
theorem begun_of_before {lock : LinkLock} {done init : List Attempt} {a last : Attempt}
    (hq : LinkQueue lock (done ++ a :: (init ++ [last]))) (hl : last.stage.isFresh = false) :
    a.stage.isFresh = false := by
  cases ha : a.stage.isFresh
  · rfl
  · have hsplit : done ++ a :: (init ++ [last]) = (done ++ a :: init) ++ [last] := by simp
    have hlt : done.length < (done ++ a :: init).length := by simp
    have hj : (done ++ a :: (init ++ [last]))[done.length]? = some a := by simp
    have hk : (done ++ a :: (init ++ [last]))[(done ++ a :: init).length]? = some last := by
      rw [hsplit, List.getElem?_concat_length]
    rw [hq.freshLast _ _ a last hlt hj hk ha] at hl
    cases hl

/-- The newest attempt visited by a pass: it finishes with a failure of its own after every
attempt before it has finished, starting provisioning over; or it is left open, begun and
not superseded. -/
theorem stepAll_newest (init : List Attempt) (last : Attempt) :
    ∀ (done : List Attempt) (h : Host) (lock : LinkLock),
      LinkQueue lock (done ++ init ++ [last]) → (∀ b ∈ done, b.stage.isFresh = false) →
      last.stage.isFinished = false → (last.stage = .fresh ∨ ¬ last.token < h.generation) →
      ∃ init' last', (h.stepAll lock done.length (init ++ [last])).2.2 = init' ++ [last'] ∧
        (((∀ b ∈ done ++ init', b.stage.isFinished = true) ∧
            (∃ e, last'.stage = .finished (.error e) ∧ e ≠ .cancelled) ∧
            (h.stepAll lock done.length (init ++ [last])).1.provisioning = .unconfigured) ∨
          (last'.stage.isFinished = false ∧ last'.stage.isFresh = false ∧
            ¬ last'.token < (h.stepAll lock done.length (init ++ [last])).1.generation)) := by
  induction init with
  | nil =>
    intro done h lock hq hd hu hcur
    rw [List.append_nil] at hq
    rw [List.nil_append, stepAll_cons]
    obtain ⟨-, hnf, hprior⟩ := hq.visit h hd
    refine ⟨[], (h.visitAttempt lock done.length last).2.2, rfl, ?_⟩
    have hsnd := visitAttempt_snd h lock done.length last
    cases hf : (h.visitAttempt lock done.length last).2.2.stage.isFinished
    · -- left open: it has begun, under the count it carries
      exact .inr ⟨rfl, hnf, visitAttempt_current h lock done.length hcur⟩
    · -- finished: everything before it finished first, and it failed on its own
      have hf' : (h.stepAttempt lock done.length last).2.2.stage.isFinished = true := by
        rw [← hsnd]
        exact hf
      obtain ⟨e, hs, hne⟩ := stepAttempt_failure h lock done.length hu hf'
      have he := hne hcur
      exact .inl ⟨by simpa using hprior hu hf, ⟨e, by rw [hsnd]; exact hs, he⟩,
        visitAttempt_unconfigured h lock done.length hu hs he⟩
  | cons a init ih =>
    intro done h lock hq hd hu hcur
    rw [List.append_assoc, List.cons_append] at hq
    obtain ⟨hq₁, hnf, -⟩ := hq.visit h hd
    -- the visits before the newest count no connect unless the newest has not begun
    have hcur₁ : last.stage = .fresh ∨
        ¬ last.token < (h.visitAttempt lock done.length a).1.generation := by
      by_cases hfr : last.stage = .fresh
      · exact .inl hfr
      · have hb := AttemptStage.isFresh_eq_false_iff.mpr hfr
        rw [visitAttempt_generation,
          (stepAttempt_begun h lock done.length (begun_of_before hq hb)).1]
        exact .inr (hcur.resolve_left hfr)
    have hd₁ : ∀ b ∈ done ++ [(h.visitAttempt lock done.length a).2.2], b.stage.isFresh = false := by
      intro b hb
      rcases List.mem_append.mp hb with hb | hb
      · exact hd b hb
      · rw [List.mem_singleton.mp hb]
        exact hnf
    rw [← List.append_assoc] at hq₁
    obtain ⟨init', last', hr, hout⟩ := ih _ (h.visitAttempt lock done.length a).1 _ hq₁ hd₁ hu hcur₁
    rw [List.length_append, List.length_singleton] at hr hout
    rw [List.cons_append, stepAll_cons]
    refine ⟨(h.visitAttempt lock done.length a).2.2 :: init', last', by rw [hr]; rfl, ?_⟩
    rcases hout with ⟨hall, hfail, hprov⟩ | hopen
    · refine .inl ⟨fun b hb => hall b ?_, hfail, hprov⟩
      simpa using hb
    · exact .inr hopen

/-! ## Rounds -/

/-- Rounds of attempts whose newest is open end with the newest failing on its own, after
every other attempt has finished, and with provisioning started over: the count of connects
supersedes every older attempt, so none of them can start provisioning over after it. -/
theorem runAttempts_newest (fuel : Nat) :
    ∀ (h : Host) (lock : LinkLock) (init : List Attempt) (last : Attempt), h.Calm →
      LinkQueue lock (init ++ [last]) → last.stage.isFinished = false →
      (last.stage = .fresh ∨ ¬ last.token < h.generation) → h.potential (init ++ [last]) < fuel →
      ∃ init' last' e, (h.runAttempts lock (init ++ [last]) fuel).2 = init' ++ [last'] ∧
        (∀ b ∈ init', b.stage.isFinished = true) ∧
        last'.stage = .finished (.error e) ∧ e ≠ .cancelled ∧
        (h.runAttempts lock (init ++ [last]) fuel).1.provisioning = .unconfigured := by
  induction fuel with
  | zero => intro h lock init last _ _ _ _ hlt; omega
  | succ fuel ih =>
    intro h lock init last hc hq hu hcur hlt
    have hmove := round_potential_movable lock (init ++ [last]) hc
    have hadvance := fun t => round_potential_advance lock (init ++ [last]) hc (t := t)
    obtain ⟨hf, -⟩ := stepAll_progress (init ++ [last]) h lock 0 hc
    have hq₁ := (stepAll_queue (init ++ [last]) [] h lock hq (by simp)).1
    obtain ⟨init', last', hr, hout⟩ :=
      stepAll_newest init last [] h lock (by simpa using hq) (by simp) hu hcur
    unfold runAttempts
    generalize h.stepAll lock 0 (init ++ [last]) = r at hmove hadvance hf hq₁ hr hout ⊢
    obtain ⟨h₁, lock₁, as₁⟩ := r
    dsimp only at hmove hadvance hf hq₁ hr hout ⊢
    subst hr
    rw [List.nil_append] at hq₁
    rcases hout with ⟨hall, ⟨e, hs, he⟩, hprov⟩ | ⟨hu₁, -, hcur₁⟩
    · -- the newest finished, and so had everything before it: the rounds stop
      have hfin : allFinished (init' ++ [last']) = true := by
        refine List.all_eq_true.mpr fun b hb => ?_
        rcases List.mem_append.mp hb with hb | hb
        · exact hall b (by simpa using hb)
        · rw [List.mem_singleton.mp hb, hs]
          rfl
      rw [if_pos hfin]
      exact ⟨init', last', e, rfl, by simpa using hall, hs, he, hprov⟩
    · have hfin : allFinished (init' ++ [last']) = false := by
        refine Bool.eq_false_iff.mpr fun hall => ?_
        rw [List.all_eq_true.mp hall last' (by simp)] at hu₁
        cases hu₁
      rw [if_neg (by rw [hfin]; decide)]
      have hv₂ := settle_linkView h₁ hf.calm.inactive
      have hf₂ := Follows.of_linkView hf.calm hv₂
      have hcur₂ : ¬ last'.token < h₁.settle.generation := by
        rw [generation_of_linkView hv₂]
        exact hcur₁
      split
      · -- some attempt can move: the next round
        rename_i hmov
        obtain ⟨⟨a, j⟩, hmem, hcan⟩ := List.any_eq_true.mp hmov
        have := hmove ⟨(a, j), hmem, hcan⟩
        exact ih _ _ _ _ hf₂.calm hq₁ hu₁ (.inr hcur₂) (by omega)
      · split
        · -- time passes to the first end of a join
          rename_i t ht
          obtain ⟨hadv, -⟩ := advanceTo_steady h₁.settle hf₂.calm t
          have := hadvance t ht
          refine ih _ _ _ _ hadv.calm hq₁ hu₁ (.inr ?_) (by omega)
          rw [hadv.generation]
          exact hcur₂
        · -- the open newest attempt either can move or waits on a join, so no round stalls
          rename_i hmov _ ht
          exfalso
          have hk : (init' ++ [last'])[init'.length]? = some last' := List.getElem?_concat_length
          rcases hq₁.can_move h₁.settle hk hu₁ with ⟨⟨a, j⟩, hmem, hcan⟩ | ⟨b, hb, hj⟩
          · exact hmov (List.any_eq_true.mpr ⟨(a, j), hmem, hcan⟩)
          · rw [nextJoinEnd_none ht b hb] at hj
            cases hj

end Host

/-! ## The saved selection

Only activating a device, pointing the active session elsewhere and forgetting a device
write the store; connecting (which on this host never reaches a device), the background work
of a host with no session active and letting the link go leave it as it was. -/

namespace SessionDirectory

variable (d : SessionDirectory)

@[simp] theorem setLink_store (id : DeviceId) (l : LinkState) : (d.setLink id l).store = d.store :=
  rfl

@[simp] theorem deactivate_store : d.deactivate.store = d.store := by
  unfold deactivate
  split <;> rfl

@[simp] theorem close_store : d.close.2.store = d.store := by
  unfold close
  split <;> rfl

@[simp] theorem expireStale_store (now : Instant) : (d.expireStale now).2.store = d.store := rfl

end SessionDirectory

namespace Host

section Store

variable (h : Host)

theorem store_of_linkView {h' : Host} (hv : h'.linkView = h.linkView) :
    h'.sessions.store = h.sessions.store := by
  rw [sessions_of_linkView hv]

@[simp] theorem setLink_store (s : LinkState) : (h.setLink s).sessions.store = h.sessions.store := by
  unfold setLink
  rw [store_of_linkView _ (emit_linkView _ _ _)]
  split <;> rfl

@[simp] theorem reseed_store (e : Option Endpoint) :
    (h.reseed e).sessions.store = h.sessions.store :=
  store_of_linkView h (reseed_linkView h e)

@[simp] theorem noteJoiner_store (call : String) :
    (h.noteJoiner call).sessions.store = h.sessions.store :=
  store_of_linkView h (noteJoiner_linkView h call)

@[simp] theorem openChannel_store (a : Attempt) (portal : Option String) :
    (h.openChannel a portal).1.sessions.store = h.sessions.store := by
  unfold openChannel failAttempt leavePortal
  dsimp only
  split <;> simp

@[simp] theorem beginHolding_store (a : Attempt) :
    (h.beginHolding a).1.sessions.store = h.sessions.store := by
  unfold beginHolding
  split
  · rfl
  · dsimp only
    split
    · simp
    · split <;> split <;> (try split) <;> simp [failAttempt, leavePortal]

@[simp] theorem afterAttempt_store (a : Attempt) :
    (h.afterAttempt a).sessions.store = h.sessions.store := by
  unfold afterAttempt
  split <;> simp

theorem stepAttempt_store (lock : LinkLock) (i : Nat) (a : Attempt) :
    (h.stepAttempt lock i a).1.sessions.store = h.sessions.store := by
  unfold stepAttempt
  dsimp only
  split
  · split <;> simp
  · split <;> simp
  · split
    · simp [failAttempt, leavePortal]
    · split <;> simp
  · rfl

theorem visitAttempt_store (lock : LinkLock) (i : Nat) (a : Attempt) :
    (h.visitAttempt lock i a).1.sessions.store = h.sessions.store := by
  unfold visitAttempt
  split
  · rfl
  · dsimp only
    split <;> simp [stepAttempt_store]

theorem stepAll_store (as : List Attempt) :
    ∀ (h : Host) (lock : LinkLock) (i : Nat),
      (h.stepAll lock i as).1.sessions.store = h.sessions.store := by
  induction as with
  | nil => intro h lock i; rfl
  | cons a rest ih =>
    intro h lock i
    rw [stepAll_cons, ih, visitAttempt_store]

theorem housekeep_store : h.housekeep.sessions.store = h.sessions.store := by
  unfold housekeep loseActive
  dsimp only
  split <;> simp

/-- With no session active, a timer keeps the store: the join timer reaches provisioning
only, and housekeeping only expires sessions. -/
theorem fireDue_store (hc : h.Calm) : h.fireDue.sessions.store = h.sessions.store := by
  unfold fireDue
  split
  · exact store_of_linkView _ (applyInput_linkView { h with joinTimer := none } hc.inactive _)
  · split
    · exact housekeep_store _
    · rfl

theorem advanceWithin_store (t fuel : Nat) :
    ∀ h : Host, h.Calm → (h.advanceWithin t fuel).sessions.store = h.sessions.store := by
  induction fuel with
  | zero => intro h _; rfl
  | succ fuel ih =>
    intro h hc
    unfold advanceWithin
    split
    next due _ =>
      split
      · -- a timer fires, and the background work it sets off runs
        have hc₁ : Calm { h with clock := max h.clock due } := ⟨hc.inactive, hc.wellFormed⟩
        have hs := fireDue_steady _ hc₁
        rw [ih _ (tick_steady h hc (le_max_left h.clock due)).calm,
          store_of_linkView _ (settle_linkView _ hs.calm.inactive), fireDue_store _ hc₁]
      · rfl
    next => rfl

theorem advanceTo_store (hc : h.Calm) (t : Nat) :
    (h.advanceTo t).sessions.store = h.sessions.store :=
  advanceWithin_store t _ h hc

theorem runAttempts_store (fuel : Nat) :
    ∀ (h : Host) (lock : LinkLock) (as : List Attempt), h.Calm →
      (h.runAttempts lock as fuel).1.sessions.store = h.sessions.store := by
  induction fuel with
  | zero => intro h lock as _; rfl
  | succ fuel ih =>
    intro h lock as hc
    obtain ⟨hf, -⟩ := stepAll_progress as h lock 0 hc
    have hs := stepAll_store as h lock 0
    unfold runAttempts
    generalize h.stepAll lock 0 as = r at hf hs ⊢
    obtain ⟨h₁, lock₁, as₁⟩ := r
    dsimp only at hf hs ⊢
    have hv₂ := settle_linkView h₁ hf.calm.inactive
    have hf₂ := Follows.of_linkView hf.calm hv₂
    split
    · exact hs
    · split
      · rw [ih _ _ _ hf₂.calm, store_of_linkView _ hv₂, hs]
      · split
        · rename_i t _
          rw [ih _ _ _ (advanceTo_steady _ hf₂.calm t).1.calm, advanceTo_store _ hf₂.calm,
            store_of_linkView _ hv₂, hs]
        · rw [store_of_linkView _ hv₂, hs]

theorem connectAll_store (hc : h.Calm) (endpoints : List Endpoint) :
    (h.connectAll endpoints).2.sessions.store = h.sessions.store := by
  unfold connectAll
  exact runAttempts_store _ h _ _ hc

theorem closeLink_store : h.closeLink.sessions.store = h.sessions.store := by
  unfold closeLink
  dsimp only
  split <;> simp

theorem closeLink_generation : h.closeLink.generation = h.generation + 1 := by
  unfold closeLink
  dsimp only
  split <;> simp

end Store

/-! ## Operations that change the session -/

/-- How an operation that changes the session leaves the host `h` it began from when it ends
holding no device: no session active, the link disconnected, provisioning started over with
no session, and the selection `h` saved kept. -/
structure Released (h h' : Host) : Prop where
  idle : h'.Idle
  unconfigured : h'.provisioning = .unconfigured
  store : h'.sessions.store = h.sessions.store

section Operations

variable {h : Host}

/-- Connecting from a host that holds no device, to one endpoint or several at once: the
newest attempt is the last to finish, failing on its own, and its start-over is the last
thing done to provisioning. -/
theorem connectAll_newest (hi : h.Idle) {endpoints : List Endpoint} (hne : endpoints ≠ []) :
    Released h (h.connectAll endpoints).2 ∧
      ∃ e, (h.connectAll endpoints).1.getLast? = some (.error e) ∧ e ≠ .cancelled := by
  obtain ⟨init, last, rfl⟩ : ∃ init last, endpoints = init ++ [last] :=
    ⟨endpoints.dropLast, endpoints.getLast hne, (List.dropLast_append_getLast hne).symm⟩
  have hq := linkQueue_fresh (init ++ [last])
  rw [List.map_append, List.map_singleton] at hq
  have hle := potential_le h ((init ++ [last]).map fun e => ({ endpoint := e } : Attempt))
  rw [List.length_map, List.map_append, List.map_singleton] at hle
  obtain ⟨init', last', e, hr, -, hs, he, hprov⟩ :=
    runAttempts_newest (4 * (init ++ [last]).length + 4) h {} _ _ hi.calm hq rfl (.inl rfl)
      (by omega)
  refine ⟨⟨connectAll_idle hi _, ?_, connectAll_store h hi.calm _⟩, e, ?_, he⟩
  · unfold connectAll
    rw [List.map_append, List.map_singleton]
    exact hprov
  · unfold connectAll
    rw [List.map_append, List.map_singleton]
    dsimp only
    rw [hr]
    simp [hs]

/-- Letting the device go starts provisioning over and keeps the saved selection; it counts
as a connect begun, so every attempt begun before is superseded. -/
theorem disconnect_released (hw : h.sessions.WellFormed) :
    Released h h.disconnect ∧ h.disconnect.generation = h.generation + 1 := by
  refine ⟨⟨disconnect_idle h hw, reseed_none_provisioning _, ?_⟩, ?_⟩
  · simp [disconnect, closeLink_store]
  · unfold disconnect
    rw [generation_of_linkView (reseed_linkView _ _), closeLink_generation]

/-- Forgetting the device while no session is active: as letting it go, the saved selection
kept, as no active device names it. -/
theorem forgetDevice_released (hc : h.Calm) :
    Released h h.forgetDevice ∧ h.forgetDevice.generation = h.generation + 1 := by
  have hfd : h.forgetDevice = h.closeLink.reseed none := by
    unfold forgetDevice
    simp only [hc.inactive]
  refine ⟨⟨forgetDevice_idle h hc.wellFormed, ?_, ?_⟩, ?_⟩
  · rw [hfd, reseed_none_provisioning]
  · rw [hfd, reseed_store, closeLink_store]
  · rw [hfd, generation_of_linkView (reseed_linkView _ _), closeLink_generation]

/-- Housekeeping that expires the active session lets the device go as a disconnect does. -/
theorem housekeep_released (hw : h.sessions.WellFormed)
    (hx : h.sessions.active.any (h.sessions.expireStale h.now).1.contains = true) :
    Released h h.housekeep := by
  have hn : (h.sessions.expireStale h.now).2.active = none := by
    rw [SessionDirectory.expireStale_active, if_pos hx]
  -- the host once the active session expired, before the link is shown
  have hc : Calm { h with sessions := (h.sessions.expireStale h.now).2,
                          fanout := h.fanout.resetSession } :=
    ⟨hn, hw.apply (.expireStale h.now)⟩
  have hh : h.housekeep =
      ({ h with sessions := (h.sessions.expireStale h.now).2,
                fanout := h.fanout.resetSession }.setLink .disconnected).reseed none := by
    simp only [housekeep, loseActive, hx, if_true]
  refine ⟨?_, ?_, housekeep_store h⟩
  · rw [hh]
    exact Idle.of_linkView ⟨hc.setLink _, setLink_link _ _⟩ (reseed_linkView _ none)
  · rw [hh, reseed_none_provisioning]

end Operations

end Host

end Tether
