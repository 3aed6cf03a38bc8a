import Tether.Proofs.HostKeeps
import Tether.Proofs.LastSelection
/-!
# Proofs.PortalRelease — every portal network joined is left again

A connect to a device that is its own access point joins the device's network through the
Wi-Fi joiner before it opens the control channel, and every way out of the attempt leaves
that network again: a join that fails, a join superseded by a newer connect or a disconnect,
the control channel failing after the join.  So between any two operations of a shell the
joiner's log has grown only by whole visits (`portalCalls`), each join followed at once by
the leave of the same network (`portal_joins_always_left`).

Within a connect several attempts run at once, but only the one holding the link joins
(`LinkQueue.joining`).  The log is the visits made so far followed by the join of that
attempt while it is still joining (`Ledger`): a step of an attempt that does not hold the
link calls nothing, and one that does adds whole visits and leaves at most its own join open
(`Host.stepAttempt_joiner`).  The rounds end with no attempt joining (`runAttempts_rounds`),
so with no join left open (`Host.connectAll_portalsLeft`); everything else a host does leaves
the joiner alone (`Host.keepsJoiner`).
-/

namespace Tether

open Tether.Json

set_option autoImplicit false

/-- The call that joins network `ssid`, with its passphrase when it has one. -/
def joinCall (ssid : String) : Option String → String
  | some passphrase => "join " ++ ssid ++ " " ++ passphrase
  | none => "join " ++ ssid

/-- The calls of whole visits to portal networks: each network joined, then left. -/
def portalCalls (visits : List (String × Option String)) : List String :=
  visits.flatMap fun v => [joinCall v.1 v.2, "leave " ++ v.1]

@[simp] theorem portalCalls_nil : portalCalls [] = [] := rfl

@[simp] theorem portalCalls_append (v w : List (String × Option String)) :
    portalCalls (v ++ w) = portalCalls v ++ portalCalls w :=
  List.flatMap_append

@[simp] theorem portalCalls_singleton (ssid : String) (passphrase : Option String) :
    portalCalls [(ssid, passphrase)] = [joinCall ssid passphrase, "leave " ++ ssid] := rfl

namespace Attempt

/-- The join an attempt has made and not yet left: its endpoint's network, while it is
joining. -/
def openJoin (a : Attempt) : List String :=
  match a.stage, a.endpoint with
  | .joining _ _, .captive ssid passphrase _ => [joinCall ssid passphrase]
  | _, _ => []

/-- An attempt that is joining joins its own endpoint's network. -/
def JoinsOwn (a : Attempt) : Prop :=
  ∀ ssid deadline, a.stage = .joining ssid deadline →
    ∃ passphrase url, a.endpoint = .captive ssid passphrase url

variable {a : Attempt}

theorem openJoin_of_not_joining (hj : a.stage.isJoining = false) : a.openJoin = [] := by
  obtain ⟨endpoint, token, stage⟩ := a
  cases stage <;> first | rfl | cases hj

theorem openJoin_of_finished (hf : a.stage.isFinished = true) : a.openJoin = [] := by
  obtain ⟨endpoint, token, stage⟩ := a
  cases stage <;> first | rfl | cases hf

theorem joinsOwn_of_not_joining (hj : a.stage.isJoining = false) : a.JoinsOwn := by
  intro ssid deadline hs
  rw [hs] at hj
  cases hj

theorem joinsOwn_of_finished (hf : a.stage.isFinished = true) : a.JoinsOwn := by
  intro ssid deadline hs
  rw [hs] at hf
  cases hf

theorem openJoin_length_le (a : Attempt) : a.openJoin.length ≤ 1 := by
  unfold openJoin
  split <;> simp

end Attempt

namespace Host

section Joiner

variable (h : Host)

@[simp] theorem emit_joiner (topic : String) (payload : Json) :
    (h.emit topic payload).joiner = h.joiner := by
  obtain ⟨ready, he⟩ := h.emit_eq topic payload
  rw [he]

@[simp] theorem setLink_joiner (s : LinkState) : (h.setLink s).joiner = h.joiner :=
  emit_joiner _ _ _

@[simp] theorem publishProvisioning_joiner (s : ProvisioningState) :
    (h.publishProvisioning s).joiner = h.joiner :=
  emit_joiner _ _ _

theorem noteJoiner_journaled (hj : h.joiner.journaled = true) (call : String) :
    (h.noteJoiner call).joiner = { h.joiner with calls := h.joiner.calls ++ [call] } := by
  unfold noteJoiner
  rw [if_pos hj]

theorem noteJoiner_silent (hj : h.joiner.journaled = false) (call : String) :
    h.noteJoiner call = h := by
  unfold noteJoiner
  rw [if_neg (by simp [hj])]

@[simp] theorem reseed_joiner (e : Option Endpoint) : (h.reseed e).joiner = h.joiner :=
  publishProvisioning_joiner _ _

@[simp] theorem failAttempt_joiner (e : LinkError) : (h.failAttempt e).1.joiner = h.joiner :=
  setLink_joiner _ _

theorem openChannel_direct_joiner (a : Attempt) : (h.openChannel a none).1.joiner = h.joiner := by
  unfold openChannel
  simp

theorem openChannel_portal_joiner (hj : h.joiner.journaled = true) (a : Attempt) (ssid : String) :
    (h.openChannel a (some ssid)).1.joiner =
      { h.joiner with calls := h.joiner.calls ++ ["leave " ++ ssid] } := by
  unfold openChannel leavePortal
  simp only [failAttempt_joiner]
  rw [noteJoiner_journaled _ (by simpa using hj), setLink_joiner]

/-- Holding the link, an attempt makes whole visits to portal networks, and leaves its own
network's join open only while it is still joining. -/
theorem beginHolding_joiner (hj : h.joiner.journaled = true) (a : Attempt) :
    (⟨a.endpoint, a.token, (h.beginHolding a).2⟩ : Attempt).JoinsOwn ∧
      ∃ visits, (h.beginHolding a).1.joiner = { h.joiner with
        calls := h.joiner.calls ++ portalCalls visits ++
          Attempt.openJoin ⟨a.endpoint, a.token, (h.beginHolding a).2⟩ } := by
  obtain ⟨endpoint, token, stage⟩ := a
  unfold beginHolding
  dsimp only
  split
  · -- superseded before it began
    exact ⟨Attempt.joinsOwn_of_not_joining rfl, [], by simp [Attempt.openJoin]⟩
  · cases endpoint with
    | direct url =>
      -- no network to join: the control channel fails at once
      have hf := openChannel_finished
        { h with sessions := h.sessions.deactivate, fanout := h.fanout.resetSession }
        ⟨.direct url, token, stage⟩ none
      refine ⟨Attempt.joinsOwn_of_finished hf, [], ?_⟩
      rw [openChannel_direct_joiner, Attempt.openJoin_of_finished hf]
      simp
    | captive ssid passphrase url =>
      dsimp only
      generalize hh₃ : Host.noteJoiner _ _ = h₃
      have hj₃ : h₃.joiner =
          { h.joiner with calls := h.joiner.calls ++ [joinCall ssid passphrase] } := by
        rw [← hh₃, noteJoiner_journaled _ (by simpa using hj), setLink_joiner]
        cases passphrase <;> rfl
      have hj₃' : h₃.joiner.journaled = true := by rw [hj₃]; exact hj
      simp only [hj₃]
      split
      · -- the join fails, and the network is left at once
        refine ⟨Attempt.joinsOwn_of_finished rfl, [(ssid, passphrase)], ?_⟩
        rw [failAttempt_joiner, leavePortal, noteJoiner_journaled _ hj₃', hj₃]
        simp [failAttempt, Attempt.openJoin]
      · split
        · -- the join takes time: the attempt is left joining its own network
          refine ⟨fun s d hs => ?_, [], ?_⟩
          · cases hs
            exact ⟨passphrase, url, rfl⟩
          · rw [hj₃]
            simp [Attempt.openJoin]
        · -- joined: the control channel fails, and the network is left
          have hf := openChannel_finished h₃ ⟨.captive ssid passphrase url, token, stage⟩ (some ssid)
          refine ⟨Attempt.joinsOwn_of_finished hf, [(ssid, passphrase)], ?_⟩
          rw [openChannel_portal_joiner _ hj₃', hj₃, Attempt.openJoin_of_finished hf]
          simp

@[simp] theorem afterAttempt_joiner (a : Attempt) : (h.afterAttempt a).joiner = h.joiner := by
  unfold afterAttempt
  split
  · rfl
  · exact reseed_joiner h none
  · rfl

end Joiner

/-- Everything but the calls made to the joiner leaves it alone. -/
theorem keepsJoiner : Keeps fun h h' : Host => h'.joiner = h.joiner where
  refl _ := rfl
  trans h₁₂ h₂₃ := h₂₃.trans h₁₂
  outward hv := congrArg Outward.joiner hv
  setLink h s := h.setLink_joiner s
  publishProvisioning h s := h.publishProvisioning_joiner s
  advertise h payload := h.emit_joiner _ payload
  resetSession _ := rfl

/-- `h'` holds the joiner of `h`, its log grown by whole visits to portal networks. -/
def PortalsLeft (h h' : Host) : Prop :=
  ∃ visits, h'.joiner = { h.joiner with calls := h.joiner.calls ++ portalCalls visits }

namespace PortalsLeft

theorem of_joiner {h h' : Host} (he : h'.joiner = h.joiner) : PortalsLeft h h' :=
  ⟨[], by simp [he]⟩

theorem trans {h₁ h₂ h₃ : Host} (h₁₂ : PortalsLeft h₁ h₂) (h₂₃ : PortalsLeft h₂ h₃) :
    PortalsLeft h₁ h₃ := by
  obtain ⟨v, hv⟩ := h₁₂
  obtain ⟨w, hw⟩ := h₂₃
  refine ⟨v ++ w, ?_⟩
  rw [hw, hv]
  simp

end PortalsLeft

theorem keepsPortalsLeft : Keeps PortalsLeft :=
  keepsJoiner.mono PortalsLeft.of_joiner PortalsLeft.trans

/-- A joiner that records nothing is left alone, whatever is asked of it. -/
theorem keepsUnrecorded :
    Keeps fun h h' : Host => h.joiner.journaled = false → h'.joiner = h.joiner :=
  keepsJoiner.mono (fun he _ => he) fun h₁₂ h₂₃ hj =>
    (h₂₃ (by rw [h₁₂ hj]; exact hj)).trans (h₁₂ hj)

theorem connectAll_unrecorded (h : Host) (hj : h.joiner.journaled = false)
    (endpoints : List Endpoint) : (h.connectAll endpoints).2.joiner = h.joiner :=
  keepsUnrecorded.connectAll (fun h call hj => by rw [noteJoiner_silent h hj]) h endpoints hj

/-! ## One attempt -/

section Attempt

variable (h : Host) (hj : h.joiner.journaled = true) (lock : LinkLock) (i : Nat)
include hj

/-- A step leaves the joiner and the attempt's open join alone, unless the attempt holds the
link or takes the free one; then the calls it adds are whole visits, followed by its open
join. -/
theorem stepAttempt_joiner (a : Attempt) (hown : a.JoinsOwn)
    (hjh : a.stage.isJoining = true → lock.holder = some i) :
    (h.stepAttempt lock i a).2.2.JoinsOwn ∧
      (((h.stepAttempt lock i a).1.joiner = h.joiner ∧
          (h.stepAttempt lock i a).2.2.openJoin = a.openJoin) ∨
        ((lock.holder = none ∨ lock.holder = some i) ∧ ∀ pre, h.joiner.calls = pre ++ a.openJoin →
          ∃ visits, (h.stepAttempt lock i a).1.joiner = { h.joiner with
            calls := pre ++ portalCalls visits ++ (h.stepAttempt lock i a).2.2.openJoin })) := by
  obtain ⟨endpoint, token, stage⟩ := a
  cases stage with
  | finished r => exact ⟨hown, .inl ⟨rfl, rfl⟩⟩
  | fresh =>
    unfold stepAttempt
    dsimp only
    cases hh : lock.holder with
    | none =>
      -- the link is free: the attempt takes it under the next count of connects
      obtain ⟨hown', visits, hv⟩ := beginHolding_joiner { h with generation := h.generation + 1 } hj
        ⟨endpoint, h.generation + 1, .fresh⟩
      refine ⟨hown', .inr ⟨.inl rfl, fun pre hpre => ⟨visits, ?_⟩⟩⟩
      rw [Attempt.openJoin_of_not_joining rfl, List.append_nil] at hpre
      rw [← hpre]
      exact hv
    | some m => exact ⟨Attempt.joinsOwn_of_not_joining rfl, .inl ⟨rfl, rfl⟩⟩
  | waiting =>
    unfold stepAttempt
    dsimp only
    by_cases hh : lock.holder = some i
    · rw [if_pos (by rw [hh]; exact beq_self_eq_true _)]
      obtain ⟨hown', visits, hv⟩ := beginHolding_joiner h hj ⟨endpoint, token, .waiting⟩
      refine ⟨hown', .inr ⟨.inr hh, fun pre hpre => ⟨visits, ?_⟩⟩⟩
      rw [Attempt.openJoin_of_not_joining rfl, List.append_nil] at hpre
      rw [← hpre]
      exact hv
    · rw [if_neg (fun hb => hh (beq_iff_eq.mp hb))]
      exact ⟨hown, .inl ⟨rfl, rfl⟩⟩
  | joining ssid deadline =>
    obtain ⟨passphrase, url, rfl⟩ := hown ssid deadline rfl
    have hh := hjh rfl
    unfold stepAttempt
    dsimp only
    -- leaving the network closes the attempt's open join into a whole visit
    have hclose : ∀ pre, h.joiner.calls = pre ++ [joinCall ssid passphrase] →
        { h.joiner with calls := h.joiner.calls ++ ["leave " ++ ssid] } =
          { h.joiner with calls := pre ++ portalCalls [(ssid, passphrase)] ++ [] } := by
      intro pre hpre
      rw [hpre]
      simp
    by_cases hs : token < h.generation
    · -- superseded while joining
      rw [if_pos hs]
      refine ⟨Attempt.joinsOwn_of_finished rfl,
        .inr ⟨.inr hh, fun pre hpre => ⟨[(ssid, passphrase)], ?_⟩⟩⟩
      rw [failAttempt_joiner, leavePortal, noteJoiner_journaled _ hj]
      exact hclose pre hpre
    · rw [if_neg hs]
      by_cases hd : deadline ≤ h.clock
      · -- the join has ended: the control channel fails, and the network is left
        rw [if_pos hd]
        have hf := openChannel_finished h ⟨.captive ssid passphrase url, token, .joining ssid deadline⟩
          (some ssid)
        refine ⟨Attempt.joinsOwn_of_finished hf,
          .inr ⟨.inr hh, fun pre hpre => ⟨[(ssid, passphrase)], ?_⟩⟩⟩
        rw [openChannel_portal_joiner _ hj, Attempt.openJoin_of_finished hf]
        exact hclose pre hpre
      · rw [if_neg hd]
        exact ⟨hown, .inl ⟨rfl, rfl⟩⟩

omit hj in
theorem visitAttempt_joiner (a : Attempt) :
    (h.visitAttempt lock i a).1.joiner = (h.stepAttempt lock i a).1.joiner := by
  unfold visitAttempt
  split
  · rename_i r hs
    simp [stepAttempt, hs]
  · dsimp only
    split
    · exact afterAttempt_joiner _ _
    · rfl

end Attempt

end Host

/-! ## A pass over the attempts -/

/-- Connect attempts part-way through their rounds: in line for the link, each joining only
its own endpoint's network, and the joiner's log that of `h₀` followed by whole visits, then
the joins still open. -/
structure Ledger (h₀ h : Host) (lock : LinkLock) (as : List Attempt) : Prop where
  queue : LinkQueue lock as
  own : ∀ a ∈ as, a.JoinsOwn
  calls : ∃ visits, h.joiner = { h₀.joiner with
    calls := h₀.joiner.calls ++ portalCalls visits ++ as.flatMap Attempt.openJoin }

namespace LinkQueue

variable {lock : LinkLock} {done rest : List Attempt} {a : Attempt}

/-- While attempt `done.length` holds the link, or nobody does, no other attempt has a join
open: an open join is a join in progress, which only the holder makes. -/
theorem openJoin_others (hq : LinkQueue lock (done ++ a :: rest))
    (hh : lock.holder = none ∨ lock.holder = some done.length) :
    done.flatMap Attempt.openJoin = [] ∧ rest.flatMap Attempt.openJoin = [] := by
  have hk : ∀ (k : Nat) (b : Attempt), (done ++ a :: rest)[k]? = some b → k ≠ done.length →
      b.openJoin = [] := by
    intro k b hb hk
    cases hjb : b.stage.isJoining
    · exact Attempt.openJoin_of_not_joining hjb
    · have hhk := hq.joining k b hb hjb
      rcases hh with hn | hs
      · rw [hn] at hhk
        cases hhk
      · rw [hs, Option.some_inj] at hhk
        exact absurd hhk.symm hk
  refine ⟨List.flatMap_eq_nil_iff.mpr fun b hb => ?_, List.flatMap_eq_nil_iff.mpr fun b hb => ?_⟩
  · obtain ⟨j, hj, rfl⟩ := List.getElem_of_mem hb
    refine hk j _ ?_ (by omega)
    rw [List.getElem?_append_left hj, List.getElem?_eq_getElem hj]
  · obtain ⟨j, hj, rfl⟩ := List.getElem_of_mem hb
    refine hk (done.length + 1 + j) _ ?_ (by omega)
    rw [List.getElem?_append_right (by omega),
      show done.length + 1 + j - done.length = j + 1 by omega, List.getElem?_cons_succ,
      List.getElem?_eq_getElem hj]

/-- At most one attempt has a join open: the one holding the link. -/
theorem openJoins_length_le {as : List Attempt} (hq : LinkQueue lock as) :
    (as.flatMap Attempt.openJoin).length ≤ 1 := by
  by_cases hjoin : ∃ (k : Nat) (b : Attempt), as[k]? = some b ∧ b.stage.isJoining = true
  · obtain ⟨k, b, hkb, hjb⟩ := hjoin
    have hh := hq.joining k b hkb hjb
    obtain ⟨hk, hb⟩ := List.getElem?_eq_some_iff.mp hkb
    -- split the attempts at the holder's
    have hsplit : as = as.take k ++ b :: as.drop (k + 1) := by
      rw [← hb, ← List.drop_eq_getElem_cons hk, List.take_append_drop]
    have hlen : (as.take k).length = k := List.length_take_of_le hk.le
    rw [hsplit] at hq ⊢
    obtain ⟨hdone, hrest⟩ := hq.openJoin_others (.inr (by rw [hlen]; exact hh))
    simp only [List.flatMap_append, List.flatMap_cons, hdone, hrest, List.nil_append,
      List.append_nil]
    exact b.openJoin_length_le
  · -- nobody is joining
    rw [List.flatMap_eq_nil_iff.mpr fun b hb => ?_, List.length_nil]
    · exact Nat.zero_le 1
    obtain ⟨k, hk, rfl⟩ := List.getElem_of_mem hb
    cases hjb : as[k].stage.isJoining
    · exact Attempt.openJoin_of_not_joining hjb
    · exact absurd ⟨k, as[k], List.getElem?_eq_getElem hk, hjb⟩ hjoin

end LinkQueue

namespace Ledger

variable {h₀ h : Host} {lock : LinkLock} {done rest : List Attempt} {a : Attempt}

/-- Visiting the attempt after a begun prefix keeps the ledger. -/
theorem visit (hj : h₀.joiner.journaled = true) (hl : Ledger h₀ h lock (done ++ a :: rest))
    (hd : ∀ b ∈ done, b.stage.isFresh = false) :
    Ledger h₀ (h.visitAttempt lock done.length a).1 (h.visitAttempt lock done.length a).2.1
        (done ++ [(h.visitAttempt lock done.length a).2.2] ++ rest) ∧
      (h.visitAttempt lock done.length a).2.2.stage.isFresh = false := by
  obtain ⟨hq₁, hnf, -⟩ := hl.queue.visit h hd
  obtain ⟨visits, hv⟩ := hl.calls
  have hjh : h.joiner.journaled = true := by rw [hv]; exact hj
  have hi : (done ++ a :: rest)[done.length]? = some a := by simp
  obtain ⟨hown, hstep⟩ := h.stepAttempt_joiner hjh lock done.length a
    (hl.own a (by simp)) (hl.queue.joining _ a hi)
  rw [← Host.visitAttempt_snd] at hown hstep
  rw [← Host.visitAttempt_joiner] at hstep
  refine ⟨⟨hq₁, fun b hb => ?_, ?_⟩, hnf⟩
  · rcases List.mem_append.mp hb with hb | hb
    · rcases List.mem_append.mp hb with hb | hb
      · exact hl.own b (by simp [hb])
      · rw [List.mem_singleton.mp hb]
        exact hown
    · exact hl.own b (by simp [hb])
  · rcases hstep with ⟨hsame, hopen⟩ | ⟨hh, hcalls⟩
    · -- nothing was called, and the attempt's open join is as it was
      refine ⟨visits, ?_⟩
      rw [hsame, hv]
      simp [hopen]
    · -- the attempt holds the link, so no other has a join open
      obtain ⟨hdone, hrest⟩ := hl.queue.openJoin_others hh
      obtain ⟨more, hmore⟩ := hcalls (h₀.joiner.calls ++ portalCalls visits)
        (by rw [hv]; simp [hdone, hrest])
      refine ⟨visits ++ more, ?_⟩
      rw [hmore, hv]
      simp [hdone, hrest]

theorem of_joiner {h' : Host} {as : List Attempt} (hl : Ledger h₀ h lock as)
    (he : h'.joiner = h.joiner) : Ledger h₀ h' lock as := by
  obtain ⟨visits, hv⟩ := hl.calls
  exact ⟨hl.queue, hl.own, visits, he.trans hv⟩

end Ledger

namespace Host

variable {h₀ : Host}

/-- A pass over the attempts after `done` keeps the ledger. -/
theorem stepAll_ledger (hj : h₀.joiner.journaled = true) (rest : List Attempt) :
    ∀ (done : List Attempt) (h : Host) (lock : LinkLock),
      Ledger h₀ h lock (done ++ rest) → (∀ b ∈ done, b.stage.isFresh = false) →
      Ledger h₀ (h.stepAll lock done.length rest).1 (h.stepAll lock done.length rest).2.1
        (done ++ (h.stepAll lock done.length rest).2.2) := by
  induction rest with
  | nil => intro done h lock hl _; exact hl
  | cons a rest ih =>
    intro done h lock hl hd
    obtain ⟨hl₁, hnf⟩ := hl.visit hj hd
    have hrest := ih _ _ _ hl₁ (List.forall_mem_append.mpr ⟨hd, List.forall_mem_singleton.mpr hnf⟩)
    rw [List.length_append, List.length_singleton, List.append_assoc, List.singleton_append] at hrest
    rw [stepAll_cons]
    exact hrest

/-- Rounds of attempts keep the ledger, however many are run. -/
theorem runAttempts_ledger (hj : h₀.joiner.journaled = true) (fuel : Nat) :
    ∀ (h : Host) (lock : LinkLock) (as : List Attempt), Ledger h₀ h lock as →
      ∃ lock', Ledger h₀ (h.runAttempts lock as fuel).1 lock' (h.runAttempts lock as fuel).2 := by
  induction fuel with
  | zero => intro h lock as hl; exact ⟨lock, hl⟩
  | succ fuel ih =>
    intro h lock as hl
    have hl₁ := stepAll_ledger hj as [] h lock hl (by simp)
    unfold runAttempts
    generalize h.stepAll lock 0 as = r at hl₁ ⊢
    obtain ⟨h₁, lock₁, as₁⟩ := r
    -- the background work and the passing of time leave the joiner alone
    have hl₂ := hl₁.of_joiner (keepsJoiner.settle h₁)
    dsimp only
    split
    · exact ⟨lock₁, hl₁⟩
    · split
      · exact ih _ _ _ hl₂
      · split
        · exact ih _ _ _ (hl₂.of_joiner (keepsJoiner.advanceTo _ _))
        · exact ⟨lock₁, hl₂⟩

/-- Attempts not yet begun have no join open and owe nothing. -/
theorem ledger_fresh (h : Host) (endpoints : List Endpoint) :
    Ledger h h {} (endpoints.map fun e => { endpoint := e }) := by
  refine ⟨linkQueue_fresh endpoints, fun a ha => ?_, [], ?_⟩
  · obtain ⟨e, -, rfl⟩ := List.mem_map.mp ha
    exact Attempt.joinsOwn_of_not_joining rfl
  · rw [List.flatMap_eq_nil_iff.mpr fun a ha => ?_]
    · simp
    obtain ⟨e, -, rfl⟩ := List.mem_map.mp ha
    rfl

/-- A connect from a calm host, to any endpoints, leaves every portal network it joined: the
rounds end with no attempt joining, so with no join left open. -/
theorem connectAll_portalsLeft (h : Host) (hc : h.Calm) (endpoints : List Endpoint) :
    PortalsLeft h (h.connectAll endpoints).2 := by
  cases hj : h.joiner.journaled
  · exact PortalsLeft.of_joiner (connectAll_unrecorded h hj endpoints)
  · unfold connectAll
    dsimp only
    obtain ⟨lock, hl⟩ := runAttempts_ledger hj (4 * endpoints.length + 4) h {} _
      (ledger_fresh h endpoints)
    -- the fuel suffices, so the rounds end with no attempt joining
    have hle := potential_le h (endpoints.map fun e => { endpoint := e })
    rw [List.length_map] at hle
    obtain ⟨-, -, hn⟩ := runAttempts_rounds (fun _ _ _ => True) (fun _ _ _ _ _ => trivial)
      (fun _ _ _ _ _ => trivial) (fun _ _ _ _ _ _ => trivial) (4 * endpoints.length + 4) h {}
      (endpoints.map fun e => { endpoint := e }) hc trivial (by omega)
    obtain ⟨visits, hv⟩ := hl.calls
    refine ⟨visits, ?_⟩
    rw [hv, List.flatMap_eq_nil_iff.mpr fun a ha => Attempt.openJoin_of_not_joining (hn a ha),
      List.append_nil]

end Host

end Tether
