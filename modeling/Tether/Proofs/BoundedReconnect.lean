import Tether.Link.Recovery
/-!
# Proofs.BoundedReconnect — a lost link is retried a bounded number of times

The recovery of a lost link (`recover`) is read as a sequence of attempt *blocks*
(`Recovery.blocks`): block `k`, counted from zero, publishes `reconnecting (k + 1)`, waits
the back-off of attempt `k`, and then does the attempt's own steps, each of which dials the
endpoint's URL or joins or leaves its portal network (`RecoveryStep.OnEndpoint`).  Before
the blocks stands the leave of a portal network the current endpoint no longer names; after
them stands the ending.

For every back-off policy and every answer the world gives:

* there are at most `maxAttempts` blocks, so the attempt numbers published run from 1 to at
  most `maxAttempts`, in order, each before its attempt;
* the recovery ends as its last block says (`Recovery.Explains`): `connected` only after the
  last dial met the device that was lost, `unreachable` only after exactly `maxAttempts`
  blocks, and a cancellation stops it without another publication;
* after `unreachable` nothing is joined or dialled, only the portal network left;
* an attempt that meets another device fails like any other, so without cancellations and
  without the lost device answering, the recovery ends `unreachable`, at once when
  `maxAttempts = 0`.

One attempt is described by `Recovery.attemptOnce_cases`, the loop by `Recovery.retry_shape`
(a run lemma by induction along the recursion of `Recovery.retry`), and the whole recovery
by `bounded_reconnection`.
-/

namespace Tether

set_option autoImplicit false

/-! ## Reading the steps -/

namespace RecoveryStep

/-- A step of an attempt on `ep`: dialling its URL, or joining or leaving its portal
network. -/
def OnEndpoint (ep : Endpoint) : RecoveryStep → Prop
  | .dial url => url = ep.url
  | .join ssid passphrase => ∃ url, ep = .captive ssid passphrase url
  | .leave ssid => ep.portalSsid = some ssid
  | _ => False

/-- The link state a step publishes. -/
def published? : RecoveryStep → Option LinkState
  | .publish s => some s
  | _ => none

theorem published?_of_onEndpoint {ep : Endpoint} {s : RecoveryStep} (h : s.OnEndpoint ep) :
    s.published? = none := by
  cases s <;> first | rfl | exact h.elim

end RecoveryStep

/-- The link state a recovery publishes last, if any. -/
def RecoveryEnd.finalState? : RecoveryEnd → Option LinkState
  | .reached _ => some .connected
  | .unreachable => some .unreachable
  | .cancelled => none

/-- The answers of an attempt hold a cancellation, in its wait, its join or its dial. -/
def AttemptAnswers.Cancels (a : AttemptAnswers) : Prop :=
  a.cancelledInWait = true ∨ a.join = .cancelled ∨ a.dial = .cancelled

/-- An attempt is made only while fewer than `maxAttempts` attempts have failed. -/
theorem ReconnectPolicy.lt_of_not_givesUp {p : ReconnectPolicy} {attempt : Nat}
    (h : ¬p.givesUp attempt = true) : attempt < p.maxAttempts := by
  simpa [ReconnectPolicy.givesUp] using h

theorem ReconnectPolicy.le_of_givesUp {p : ReconnectPolicy} {attempt : Nat}
    (h : p.givesUp attempt = true) : p.maxAttempts ≤ attempt := by
  simpa [ReconnectPolicy.givesUp] using h

namespace Recovery

/-- The steps of attempt `k`, counted from zero: its publication and wait, then `body`. -/
def block (k : Nat) (body : List RecoveryStep) : List RecoveryStep :=
  .publish (.reconnecting (k + 1)) :: .wait k :: body

/-- The attempts from `k` on, one body each. -/
def blocks : Nat → List (List RecoveryStep) → List RecoveryStep
  | _, [] => []
  | k, body :: rest => block k body ++ blocks (k + 1) rest

/-- What the loop of attempts publishes after the last block. -/
def closing : RecoveryEnd → List RecoveryStep
  | .unreachable => [.publish .unreachable]
  | _ => []

/-- How the `n` attempts from `start` on explain the end of a recovery: the last of them met
the lost device, or held a cancellation; or the policy's attempts are used up. -/
def Explains (p : ReconnectPolicy) (id : DeviceId) (answers : Nat → AttemptAnswers)
    (start n : Nat) : RecoveryEnd → Prop
  | .reached h => 0 < n ∧ (answers (start + n - 1)).dial = .hello h ∧ h.deviceId = id
  | .unreachable => start + n = p.maxAttempts
  | .cancelled => 0 < n ∧ (answers (start + n - 1)).Cancels

theorem Explains.succ {p : ReconnectPolicy} {id : DeviceId} {answers : Nat → AttemptAnswers}
    {start n : Nat} {e : RecoveryEnd} (h : Explains p id answers (start + 1) n e) :
    Explains p id answers start (n + 1) e := by
  have hlast : start + (n + 1) - 1 = start + 1 + n - 1 := by omega
  cases e with
  | reached hello =>
    obtain ⟨-, hdial, hid⟩ := h
    exact ⟨Nat.succ_pos n, hlast ▸ hdial, hid⟩
  | unreachable =>
    change start + 1 + n = p.maxAttempts at h
    change start + (n + 1) = p.maxAttempts
    omega
  | cancelled =>
    obtain ⟨-, hc⟩ := h
    exact ⟨Nat.succ_pos n, hlast ▸ hc⟩

theorem published_blocks {ep : Endpoint} (k : Nat) (bodies : List (List RecoveryStep))
    (hon : ∀ b ∈ bodies, ∀ s ∈ b, s.OnEndpoint ep) :
    (blocks k bodies).filterMap RecoveryStep.published? =
      (List.range' (k + 1) bodies.length).map LinkState.reconnecting := by
  induction bodies generalizing k with
  | nil => rfl
  | cons body rest ih =>
    -- an attempt's own steps publish nothing
    have hbody : body.filterMap RecoveryStep.published? = [] :=
      List.filterMap_eq_nil_iff.mpr fun s hs =>
        RecoveryStep.published?_of_onEndpoint (hon body List.mem_cons_self s hs)
    have hrest := ih (k + 1) fun b hb => hon b (List.mem_cons_of_mem _ hb)
    simp only [blocks, block, List.filterMap_append, List.filterMap_cons, RecoveryStep.published?,
      hbody, hrest, List.length_cons, List.range'_succ, List.map_cons]
    rfl

/-! ## One attempt -/

section Attempt

variable (id : DeviceId) (url : String)

theorem dialOnce_steps (d : DialAnswer) : (dialOnce id url d).1 = [.dial url] := by
  cases d <;> rfl

theorem dialOnce_reached {d : DialAnswer} {h : DeviceHello} (hr : (dialOnce id url d).2 = .reached h) :
    d = .hello h ∧ h.deviceId = id := by
  cases d with
  | hello h' =>
    by_cases hid : h'.deviceId = id
    · simp only [dialOnce, hid, if_true, AttemptEnd.reached.injEq] at hr
      subst hr
      exact ⟨rfl, hid⟩
    · simp only [dialOnce, hid, if_false, reduceCtorEq] at hr
  | failed e => cases hr
  | cancelled => cases hr

theorem dialOnce_cancelled {d : DialAnswer} (hc : (dialOnce id url d).2 = .cancelled) :
    d = .cancelled := by
  cases d with
  | hello h' =>
    simp only [dialOnce] at hc
    split at hc <;> cases hc
  | failed e => cases hc
  | cancelled => rfl

end Attempt

/-- **One attempt**: it dials the endpoint's URL, after joining its portal network when it
has to, and ends as the dial does; or it has to join, the join fails or is cancelled, and it
leaves the network again and ends so. -/
theorem attemptOnce_cases (id : DeviceId) (ep : Endpoint) (portal : Option String)
    (a : AttemptAnswers) :
    (∃ pre : List RecoveryStep, (∀ s ∈ pre, s.OnEndpoint ep) ∧
      (attemptOnce id ep portal a).1 = pre ++ [.dial ep.url] ∧
      (attemptOnce id ep portal a).2.1 = (dialOnce id ep.url a.dial).2) ∨
    (∃ ssid passphrase url, ep = .captive ssid passphrase url ∧
      (attemptOnce id ep portal a).1 = [.join ssid passphrase, .leave ssid] ∧
      ((a.join = .cancelled ∧ (attemptOnce id ep portal a).2.1 = .cancelled) ∨
        (∃ message, a.join = .failed message ∧ (attemptOnce id ep portal a).2.1 = .failed))) := by
  unfold attemptOnce
  split
  · -- a captive endpoint whose network is not joined: the join comes first
    rename_i ssid passphrase url
    cases hj : a.join with
    | joined =>
      refine .inl ⟨[.join ssid passphrase], ?_, ?_, rfl⟩
      · intro s hs
        rw [List.mem_singleton.mp hs]
        exact ⟨url, rfl⟩
      · rw [dialOnce_steps]
        rfl
    | failed message => exact .inr ⟨ssid, passphrase, url, rfl, rfl, .inr ⟨message, rfl, rfl⟩⟩
    | cancelled => exact .inr ⟨ssid, passphrase, url, rfl, rfl, .inl ⟨rfl, rfl⟩⟩
  · exact .inl ⟨[], by simp, by rw [dialOnce_steps]; rfl, rfl⟩

theorem attemptOnce_onEndpoint (id : DeviceId) (ep : Endpoint) (portal : Option String)
    (a : AttemptAnswers) : ∀ s ∈ (attemptOnce id ep portal a).1, s.OnEndpoint ep := by
  rcases attemptOnce_cases id ep portal a with ⟨pre, hpre, hsteps, -⟩ | ⟨ssid, pass, url, rfl, hsteps, -⟩
  · rw [hsteps]
    intro s hs
    rcases List.mem_append.mp hs with hs | hs
    · exact hpre s hs
    · rw [List.mem_singleton.mp hs]
      rfl
  · rw [hsteps]
    intro s hs
    simp only [List.mem_cons, List.not_mem_nil, or_false] at hs
    rcases hs with rfl | rfl
    · exact ⟨url, rfl⟩
    · rfl

/-- An attempt reaches only the device that was lost, with the hello of its dial. -/
theorem attemptOnce_reached {id : DeviceId} {ep : Endpoint} {portal : Option String}
    {a : AttemptAnswers} {h : DeviceHello} (hr : (attemptOnce id ep portal a).2.1 = .reached h) :
    a.dial = .hello h ∧ h.deviceId = id := by
  rcases attemptOnce_cases id ep portal a with ⟨-, -, -, hend⟩ | ⟨-, -, -, -, -, hend⟩
  · exact dialOnce_reached id ep.url (hend ▸ hr)
  · rcases hend with ⟨-, hend⟩ | ⟨-, -, hend⟩ <;> rw [hend] at hr <;> cases hr

theorem attemptOnce_cancelled {id : DeviceId} {ep : Endpoint} {portal : Option String}
    {a : AttemptAnswers} (hc : (attemptOnce id ep portal a).2.1 = .cancelled) :
    a.join = .cancelled ∨ a.dial = .cancelled := by
  rcases attemptOnce_cases id ep portal a with ⟨-, -, -, hend⟩ | ⟨-, -, -, -, -, hend⟩
  · exact .inr (dialOnce_cancelled id ep.url (hend ▸ hc))
  · rcases hend with ⟨hj, -⟩ | ⟨-, -, hend⟩
    · exact .inl hj
    · rw [hend] at hc
      cases hc

/-! ## The loop of attempts -/

/-- **The loop of attempts, block by block**: from attempt `attempt` on, the steps are one
block per attempt made, at most as many as the policy has left, each on the endpoint, then
the closing publication; and the end is explained by the last block. -/
theorem retry_shape (p : ReconnectPolicy) (id : DeviceId) (ep : Endpoint)
    (answers : Nat → AttemptAnswers) (attempt : Nat) (portal : Option String)
    (hle : attempt ≤ p.maxAttempts) :
    ∃ bodies : List (List RecoveryStep),
      (retry p id ep answers attempt portal).1 =
        blocks attempt bodies ++ closing (retry p id ep answers attempt portal).2.1 ∧
      (∀ b ∈ bodies, ∀ s ∈ b, s.OnEndpoint ep) ∧
      attempt + bodies.length ≤ p.maxAttempts ∧
      Explains p id answers attempt bodies.length (retry p id ep answers attempt portal).2.1 := by
  fun_induction retry p id ep answers attempt portal with
  | case1 attempt portal hgive =>
    -- the policy's attempts are used up
    have hge := ReconnectPolicy.le_of_givesUp hgive
    refine ⟨[], rfl, by simp, by simpa using hle, ?_⟩
    change attempt + 0 = p.maxAttempts
    omega
  | case2 attempt portal hgive begin hwait =>
    have hlt := ReconnectPolicy.lt_of_not_givesUp hgive
    exact ⟨[[]], rfl, by simp, by simp; omega, Nat.one_pos, .inl (by simpa using hwait)⟩
  | case3 attempt portal hgive begin hwait steps hello portal' hrun =>
    have hlt := ReconnectPolicy.lt_of_not_givesUp hgive
    have hon := attemptOnce_onEndpoint id ep portal (answers attempt)
    rw [hrun] at hon
    refine ⟨[steps], by simp [blocks, block, closing, begin], by simpa using hon,
      by simp; omega, Nat.one_pos, ?_⟩
    simpa using attemptOnce_reached (congrArg (·.2.1) hrun)
  | case4 attempt portal hgive begin hwait steps portal' hrun =>
    have hlt := ReconnectPolicy.lt_of_not_givesUp hgive
    have hon := attemptOnce_onEndpoint id ep portal (answers attempt)
    rw [hrun] at hon
    have hc := attemptOnce_cancelled (congrArg (·.2.1) hrun)
    refine ⟨[steps], by simp [blocks, block, closing, begin], by simpa using hon,
      by simp; omega, Nat.one_pos, ?_⟩
    simpa [AttemptAnswers.Cancels] using .inr hc
  | case5 attempt portal hgive begin hwait steps portal' hrun rest ih =>
    -- a failed attempt is one more block before those of the rest
    have hlt := ReconnectPolicy.lt_of_not_givesUp hgive
    obtain ⟨bodies, hsteps, hon, hlen, hexp⟩ := ih hlt
    have hon₀ := attemptOnce_onEndpoint id ep portal (answers attempt)
    rw [hrun] at hon₀
    refine ⟨steps :: bodies, ?_, ?_, ?_, hexp.succ⟩
    · show begin ++ steps ++ (retry p id ep answers (attempt + 1) portal').1 =
        block attempt steps ++ blocks (attempt + 1) bodies ++
          closing (retry p id ep answers (attempt + 1) portal').2.1
      rw [hsteps]
      simp only [begin, block, List.cons_append, List.nil_append, List.append_assoc]
    · intro b hb
      rcases List.mem_cons.mp hb with rfl | hb
      · exact hon₀
      · exact hon b hb
    · simp only [List.length_cons]
      omega

/-- Without cancellations and without the lost device answering, every attempt fails and the
loop ends `unreachable`. -/
theorem retry_unreachable (p : ReconnectPolicy) (id : DeviceId) (ep : Endpoint)
    (answers : Nat → AttemptAnswers) (attempt : Nat) (portal : Option String)
    (hquiet : ∀ k, attempt ≤ k → k < p.maxAttempts →
      ¬(answers k).Cancels ∧ ∀ h, (answers k).dial = .hello h → h.deviceId ≠ id) :
    (retry p id ep answers attempt portal).2.1 = .unreachable := by
  fun_induction retry p id ep answers attempt portal with
  | case1 attempt portal hgive => rfl
  | case2 attempt portal hgive begin hwait =>
    have hlt := ReconnectPolicy.lt_of_not_givesUp hgive
    exact absurd (.inl (by simpa using hwait)) (hquiet attempt (Nat.le_refl attempt) hlt).1
  | case3 attempt portal hgive begin hwait steps hello portal' hrun =>
    have hlt := ReconnectPolicy.lt_of_not_givesUp hgive
    obtain ⟨hdial, hid⟩ := attemptOnce_reached (congrArg (·.2.1) hrun)
    exact absurd hid ((hquiet attempt (Nat.le_refl attempt) hlt).2 hello hdial)
  | case4 attempt portal hgive begin hwait steps portal' hrun =>
    have hlt := ReconnectPolicy.lt_of_not_givesUp hgive
    have hc := attemptOnce_cancelled (congrArg (·.2.1) hrun)
    exact absurd (.inr hc) (hquiet attempt (Nat.le_refl attempt) hlt).1
  | case5 attempt portal hgive begin hwait steps portal' hrun rest ih =>
    exact ih fun k hk hkm => hquiet k (Nat.le_of_succ_le hk) hkm

/-- What a recovery does after its loop of attempts: publishes `connected`, or leaves the
portal network still joined. -/
def ending : RecoveryEnd → Option String → List RecoveryStep
  | .reached _, _ => [.publish .connected]
  | _, portal => portal.toList.map .leave

theorem ending_of_not_reached {e : RecoveryEnd} (hne : ∀ h, e = .reached h → False)
    (portal : Option String) : ending e portal = portal.toList.map .leave := by
  cases e with
  | reached h => exact (hne h rfl).elim
  | unreachable => rfl
  | cancelled => rfl

theorem leaves_of_toList (portal : Option String) :
    ∀ s ∈ portal.toList.map RecoveryStep.leave, ∃ ssid, s = .leave ssid := by
  intro s hs
  obtain ⟨ssid, -, rfl⟩ := List.mem_map.mp hs
  exact ⟨ssid, rfl⟩

/-- After the last attempt block comes the final publication, if any, and then at most
leaves: none after `connected`. -/
theorem closing_ending (e : RecoveryEnd) (portal : Option String) :
    ∃ leaves, closing e ++ ending e portal = (e.finalState?.map .publish).toList ++ leaves ∧
      (∀ s ∈ leaves, ∃ ssid, s = .leave ssid) ∧ ∀ h, e = .reached h → leaves = [] := by
  cases e with
  | reached h => exact ⟨[], rfl, by simp, fun _ _ => rfl⟩
  | unreachable => exact ⟨portal.toList.map .leave, rfl, leaves_of_toList portal, fun _ h => nomatch h⟩
  | cancelled => exact ⟨portal.toList.map .leave, rfl, leaves_of_toList portal, fun _ h => nomatch h⟩

/-- Leaving networks publishes nothing. -/
theorem published_leaves {l : List RecoveryStep} (h : ∀ s ∈ l, ∃ ssid, s = .leave ssid) :
    l.filterMap RecoveryStep.published? = [] :=
  List.filterMap_eq_nil_iff.mpr fun s hs => by
    obtain ⟨ssid, rfl⟩ := h s hs
    rfl

theorem published_final (o : Option LinkState) :
    (o.map RecoveryStep.publish).toList.filterMap RecoveryStep.published? = o.toList := by
  cases o <;> rfl

end Recovery

/-- The recovery is the loop of attempts on the device's current endpoint, after leaving a
portal network that endpoint does not name, and then its ending. -/
theorem recover_eq (p : ReconnectPolicy) (d : SessionDirectory) (id : DeviceId)
    (held : Endpoint) (portal : Option String) (answers : Nat → AttemptAnswers) :
    recover p d id held portal answers =
      let ep := ((d.get? id).map (·.endpoint)).getD held
      let tried := Recovery.retry p id ep answers 0 (if portal ≠ ep.portalSsid then none else portal)
      ((if portal ≠ ep.portalSsid then portal.toList.map .leave else []) ++ tried.1 ++
        Recovery.ending tried.2.1 tried.2.2, tried.2.1) := by
  unfold recover
  dsimp only
  split
  · rename_i hello hend
    rw [hend]
    rfl
  · rename_i hne
    rw [Recovery.ending_of_not_reached hne]

/-- **Bounded reconnection.**  For every back-off policy and every answer the world gives, a
recovery leaves a portal network the device's current endpoint does not name, then makes at
most `maxAttempts` attempts on that endpoint, each announced by `reconnecting` with its
number, in order, and then publishes `connected`, `unreachable` or nothing, leaving at most
the portal network after it.  It reaches the device only through a dial that met the device
that was lost; it gives up only after exactly `maxAttempts` attempts; it stops early only on a
cancellation.  Without cancellations and without the lost device answering it ends
`unreachable`, and with `maxAttempts = 0` it publishes nothing else. -/
theorem bounded_reconnection (p : ReconnectPolicy) (d : SessionDirectory) (id : DeviceId)
    (held : Endpoint) (portal : Option String) (answers : Nat → AttemptAnswers) :
    let ep := ((d.get? id).map (·.endpoint)).getD held
    let r := recover p d id held portal answers
    (∃ bodies post,
      r.1 = (if portal ≠ ep.portalSsid then portal.toList.map .leave else []) ++
        Recovery.blocks 0 bodies ++ post ∧
      (∀ b ∈ bodies, ∀ s ∈ b, s.OnEndpoint ep) ∧
      bodies.length ≤ p.maxAttempts ∧
      Recovery.Explains p id answers 0 bodies.length r.2 ∧
      (∃ leaves, post = (r.2.finalState?.map .publish).toList ++ leaves ∧
        (∀ s ∈ leaves, ∃ ssid, s = .leave ssid) ∧ ∀ h, r.2 = .reached h → leaves = []) ∧
      r.1.filterMap RecoveryStep.published? =
        (List.range' 1 bodies.length).map LinkState.reconnecting ++ r.2.finalState?.toList) ∧
    ((∀ k < p.maxAttempts, ¬(answers k).Cancels ∧
      ∀ h, (answers k).dial = .hello h → h.deviceId ≠ id) → r.2 = .unreachable) ∧
    (p.maxAttempts = 0 →
      r.2 = .unreachable ∧ r.1.filterMap RecoveryStep.published? = [.unreachable]) := by
  intro ep r
  obtain ⟨bodies, hsteps, hon, hlen, hexp⟩ := Recovery.retry_shape p id ep answers 0
    (if portal ≠ ep.portalSsid then none else portal) (Nat.zero_le _)
  have hquiet := Recovery.retry_unreachable p id ep answers 0
    (if portal ≠ ep.portalSsid then none else portal)
  generalize htried :
    Recovery.retry p id ep answers 0 (if portal ≠ ep.portalSsid then none else portal) = tried
    at hsteps hexp hquiet
  have hr : r = ((if portal ≠ ep.portalSsid then portal.toList.map .leave else []) ++ tried.1 ++
      Recovery.ending tried.2.1 tried.2.2, tried.2.1) := by
    rw [← htried]
    exact recover_eq p d id held portal answers
  obtain ⟨leaves, hpost, hleaves, hreached⟩ := Recovery.closing_ending tried.2.1 tried.2.2
  -- the portal network left first publishes nothing
  have hfirst : ∀ s ∈ (if portal ≠ ep.portalSsid then portal.toList.map RecoveryStep.leave else []),
      ∃ ssid, s = .leave ssid := by
    split
    · exact Recovery.leaves_of_toList portal
    · simp
  -- the publications: the attempts' numbers, then the final state
  have hpub : r.1.filterMap RecoveryStep.published? =
      (List.range' 1 bodies.length).map LinkState.reconnecting ++ r.2.finalState?.toList := by
    rw [hr]
    dsimp only
    rw [hsteps, List.append_assoc, List.append_assoc, hpost]
    simp only [List.filterMap_append, Recovery.published_leaves hfirst,
      Recovery.published_blocks 0 bodies hon, Recovery.published_final,
      Recovery.published_leaves hleaves, List.nil_append, List.append_nil]
  have hend : (∀ k < p.maxAttempts, ¬(answers k).Cancels ∧
      ∀ h, (answers k).dial = .hello h → h.deviceId ≠ id) → r.2 = .unreachable := by
    intro hq
    rw [hr]
    exact hquiet fun k _ hk => hq k hk
  refine ⟨⟨bodies, Recovery.closing tried.2.1 ++ Recovery.ending tried.2.1 tried.2.2, ?_, hon,
      by simpa using hlen, by rw [hr]; exact hexp, ⟨leaves, by rw [hr]; exact hpost, hleaves,
      by rw [hr]; exact hreached⟩, hpub⟩, hend, fun hzero => ?_⟩
  · rw [hr, hsteps]
    simp only [List.append_assoc]
  · -- no attempt is allowed, so none is made
    have hnil : bodies.length = 0 := by omega
    have hun := hend fun k hk => absurd hk (by omega)
    refine ⟨hun, ?_⟩
    rw [hpub, hnil, hun]
    rfl

/-- A device that keeps answering with another device's hello is given up after the
policy's two attempts: `reconnecting 1`, `reconnecting 2`, then `unreachable`. -/
theorem impostor_device_given_up :
    let answers : Nat → AttemptAnswers := fun _ =>
      { cancelledInWait := false, join := .joined, dial := .hello { deviceId := ⟨"other"⟩ } }
    let r := recover { maxAttempts := 2 } { store := {}, expiry := ⟨0, 0⟩ } ⟨"device"⟩
      (.direct "ws://device.local") none answers
    r.2 = .unreachable ∧
      r.1.filterMap RecoveryStep.published? = [.reconnecting 1, .reconnecting 2, .unreachable] := by
  intro answers r
  obtain ⟨⟨bodies, -, -, -, -, hexp, -, hpub⟩, hquiet, -⟩ := bounded_reconnection
    { maxAttempts := 2 } { store := {}, expiry := ⟨0, 0⟩ } ⟨"device"⟩ (.direct "ws://device.local")
    none answers
  have hun : r.2 = .unreachable := hquiet fun k _ =>
    ⟨by simp [AttemptAnswers.Cancels, answers], fun h hh => by cases hh; decide⟩
  have hlen : bodies.length = 2 := by
    rw [hun] at hexp
    simpa [Recovery.Explains] using hexp
  refine ⟨hun, ?_⟩
  rw [hpub, hlen, hun]
  rfl

end Tether
