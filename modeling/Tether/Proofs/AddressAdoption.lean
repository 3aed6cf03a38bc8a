import Mathlib
import Tether.Proofs.SelectionHistory
import Tether.Proofs.HostFrames
/-!
# Proofs.AddressAdoption — adopting a device's station address

Once a device joins the user's network and reports its station address, the host points the
active session at it (`Host.adoptAddress`): the control URL becomes `withHost base ip`, where
`base` is the portal's URL for a session reached through the portal and the session's own URL
otherwise (`Endpoint.adoptionBase`).  The session is then reached directly and no longer
through the portal, the selection is saved with the new endpoint, and nothing else changes;
with no session active nothing changes at all (`Host.adoptAddress_active`).

`withHost` reads a URL as a scheme (the text before the first `://`, `ws` when there is
none), an authority, and a path (from the first `/` after the scheme, `/` when there is
none), and writes the scheme, `://`, the new host and the path.  Read back the same way, the
URL it makes has the base's scheme and path and exactly the new host as its authority, and
so replacing a host twice is replacing it once, both exactly when the host has no `/`
(`urlParts_withHost`, `withHost_withHost`).  A slash in a reported address ends its authority
early: the rest of the address becomes part of the path, and a later adoption keeps it.

The scheme is found by `splitScheme`, which `splitScheme_spec` and `splitScheme_of_none`
describe: a URL splits at its first `://`, and a scheme with no `://` in it, followed by
`://`, is read back whatever comes after.

The main statement is `address_adoption_rewrites_authority`.
-/

namespace Tether

set_option autoImplicit false

/-! ## Where a URL's scheme ends -/

/-- A character that does not start `://` goes into the scheme. -/
theorem splitScheme_cons {c : Char} {rest : List Char}
    (h : ¬ (c = ':' ∧ rest.take 2 = ['/', '/'])) :
    splitScheme (c :: rest) = (splitScheme rest).map fun (s, r) => (c :: s, r) := by
  conv_lhs => rw [splitScheme.eq_def]
  split
  · rename_i heq
    simp only [List.cons.injEq] at heq
    obtain ⟨rfl, rfl⟩ := heq
    simp at h
  · rename_i heq
    simp only [List.cons.injEq] at heq
    obtain ⟨rfl, rfl⟩ := heq
    rfl
  · cases ‹c :: rest = []›

@[simp] theorem splitScheme_sep (rest : List Char) :
    splitScheme (':' :: '/' :: '/' :: rest) = some ([], rest) := by
  rw [splitScheme]

theorem take_two_eq_slashes {l : List Char} : l.take 2 = ['/', '/'] ↔ ∃ t, l = '/' :: '/' :: t := by
  rcases l with _ | ⟨a, _ | ⟨b, t⟩⟩ <;> simp

/-- Before a `:`, two slashes can only come from the text itself. -/
theorem take_two_append_colon (s rest : List Char) :
    (s ++ ':' :: rest).take 2 = ['/', '/'] ↔ ∃ t, s = '/' :: '/' :: t := by
  rcases s with _ | ⟨a, _ | ⟨b, t⟩⟩ <;> simp

/-- A scheme with no `://` in it, nor one reaching into a `://` after it, is what a URL
starting with it followed by `://` splits at. -/
theorem splitScheme_of_none {s : List Char} (hs : splitScheme (s ++ [':', '/']) = none)
    (rest : List Char) : splitScheme (s ++ ':' :: '/' :: '/' :: rest) = some (s, rest) := by
  induction s with
  | nil => simp
  | cons c s ih =>
    -- `c` starts a separator only if `s` starts with `//`, which `hs` rules out
    have hfree : ∀ x, ¬ (c = ':' ∧ (s ++ ':' :: x).take 2 = ['/', '/']) := by
      rintro x ⟨rfl, htake⟩
      obtain ⟨t, rfl⟩ := (take_two_append_colon s x).mp htake
      simp at hs
    rw [List.cons_append, splitScheme_cons (hfree ['/'])] at hs
    rw [List.cons_append, splitScheme_cons (hfree _), ih (Option.map_eq_none_iff.mp hs)]
    rfl

/-- What a URL splits at: its scheme followed by `://`, with no `://` earlier. -/
theorem splitScheme_spec {u s r : List Char} (h : splitScheme u = some (s, r)) :
    u = s ++ ':' :: '/' :: '/' :: r ∧ splitScheme (s ++ [':', '/']) = none := by
  induction u generalizing s with
  | nil => simp [splitScheme] at h
  | cons c u ih =>
    by_cases hm : c = ':' ∧ u.take 2 = ['/', '/']
    · obtain ⟨rfl, htake⟩ := hm
      obtain ⟨t, rfl⟩ := take_two_eq_slashes.mp htake
      simp only [splitScheme_sep, Option.some.injEq, Prod.mk.injEq] at h
      obtain ⟨rfl, rfl⟩ := h
      exact ⟨rfl, by decide⟩
    · rw [splitScheme_cons hm] at h
      obtain ⟨⟨s', r'⟩, hu, hsr⟩ := Option.map_eq_some_iff.mp h
      simp only [Prod.mk.injEq] at hsr
      obtain ⟨rfl, rfl⟩ := hsr
      obtain ⟨rfl, hnone⟩ := ih hu
      refine ⟨rfl, ?_⟩
      have hm' : ¬ (c = ':' ∧ (s' ++ [':', '/']).take 2 = ['/', '/']) := by
        rintro ⟨rfl, htake⟩
        obtain ⟨t, rfl⟩ := (take_two_append_colon s' ['/']).mp htake
        exact hm ⟨rfl, by simp⟩
      rw [List.cons_append, splitScheme_cons hm', hnone]
      rfl

/-! ## Reading a URL back -/

/-- The scheme of a URL and the text after it, as `withHost` reads them. -/
def schemeAndRest (url : String) : List Char × List Char :=
  (splitScheme url.toList).getD ("ws".toList, url.toList)

/-- A URL read the way `withHost` reads it: its scheme, its authority (the text after the
scheme up to the first `/`) and its path. -/
def urlParts (url : String) : String × String × String :=
  (String.ofList (schemeAndRest url).1,
    String.ofList ((schemeAndRest url).2.takeWhile (· ≠ '/')),
    String.ofList (pathFrom (schemeAndRest url).2))

theorem withHost_eq (url host : String) :
    withHost url host = String.ofList ((schemeAndRest url).1 ++ ':' :: '/' :: '/' ::
      (host.toList ++ pathFrom (schemeAndRest url).2)) := by
  simp [withHost, schemeAndRest]

/-- The scheme `withHost` reads has no `://` in it, nor one reaching into the `://` after it. -/
theorem schemeAndRest_free (url : String) :
    splitScheme ((schemeAndRest url).1 ++ [':', '/']) = none := by
  unfold schemeAndRest
  cases h : splitScheme url.toList with
  | none => simp only [Option.getD_none]; decide
  | some sr => exact (splitScheme_spec h).2

/-- `withHost` keeps the scheme, and puts the host and the path after it. -/
theorem schemeAndRest_withHost (url host : String) :
    schemeAndRest (withHost url host) =
      ((schemeAndRest url).1, host.toList ++ pathFrom (schemeAndRest url).2) := by
  rw [schemeAndRest, withHost_eq, String.toList_ofList,
    splitScheme_of_none (schemeAndRest_free url)]
  rfl

theorem head?_pathFrom (rest : List Char) : (pathFrom rest).head? = some '/' := by
  unfold pathFrom
  cases h : rest.dropWhile (· ≠ '/') with
  | nil => rfl
  | cons c t =>
    -- the first character `dropWhile` keeps is a slash
    have hc := List.head?_dropWhile_not (fun c => decide (c ≠ '/')) rest
    rw [h] at hc
    simpa using hc

theorem pathFrom_of_head? {p : List Char} (hp : p.head? = some '/') : pathFrom p = p := by
  obtain ⟨t, rfl⟩ : ∃ t, p = '/' :: t := by
    cases p with
    | nil => cases hp
    | cons c t => exact ⟨t, by simpa using hp⟩
  simp [pathFrom]

/-- A host with no slash lies wholly before the first slash. -/
theorem before_slash_of_not_mem {host : List Char} (hfree : '/' ∉ host) :
    ∀ c ∈ host, decide (c ≠ '/') = true := by
  intro c hc
  simp only [ne_eq, decide_eq_true_eq]
  rintro rfl
  exact hfree hc

/-- A host with no slash leaves the path after it as it is. -/
theorem pathFrom_append_of_not_mem {host p : List Char} (hfree : '/' ∉ host)
    (hp : p.head? = some '/') : pathFrom (host ++ p) = p := by
  unfold pathFrom
  rw [List.dropWhile_append_of_pos (before_slash_of_not_mem hfree)]
  exact pathFrom_of_head? hp

/-- A host with a slash moves its text from the first slash into the path. -/
theorem pathFrom_append_of_mem {host p : List Char} (hslash : '/' ∈ host) :
    pathFrom (host ++ p) = host.dropWhile (· ≠ '/') ++ p ∧ host.dropWhile (· ≠ '/') ≠ [] := by
  have hne : host.dropWhile (· ≠ '/') ≠ [] := by
    rw [Ne, List.dropWhile_eq_nil_iff]
    intro hall
    simpa using hall '/' hslash
  have hd : (host ++ p).dropWhile (· ≠ '/') = host.dropWhile (· ≠ '/') ++ p := by
    rw [List.dropWhile_append, if_neg (by simpa using hne)]
  refine ⟨?_, hne⟩
  unfold pathFrom
  rw [hd]
  cases hh : host.dropWhile (· ≠ '/') with
  | nil => exact absurd hh hne
  | cons c t => rfl

/-- A host keeps the path after it exactly when it has no slash. -/
theorem pathFrom_append_eq_iff (host : List Char) {p : List Char} (hp : p.head? = some '/') :
    pathFrom (host ++ p) = p ↔ '/' ∉ host := by
  by_cases hslash : '/' ∈ host
  · obtain ⟨hpath, hne⟩ := pathFrom_append_of_mem (p := p) hslash
    simp only [hslash, not_true_eq_false, iff_false, hpath]
    intro heq
    have hlen := congrArg List.length heq
    rw [List.length_append] at hlen
    exact hne (List.eq_nil_of_length_eq_zero (by omega))
  · simp only [hslash, not_false_eq_true, iff_true]
    exact pathFrom_append_of_not_mem hslash hp

theorem takeWhile_of_head? {p : List Char} (hp : p.head? = some '/') :
    p.takeWhile (· ≠ '/') = [] := by
  cases p with
  | nil => cases hp
  | cons c t =>
    obtain rfl : c = '/' := by simpa using hp
    simp

/-- Read back, the URL `withHost` makes has the scheme and the path of `url` and exactly
`host` as its authority, unless `host` has a slash. -/
theorem urlParts_withHost (url host : String) :
    urlParts (withHost url host) = ((urlParts url).1, host, (urlParts url).2.2) ↔
      '/' ∉ host.toList := by
  have hp := head?_pathFrom (schemeAndRest url).2
  simp only [urlParts, schemeAndRest_withHost, Prod.mk.injEq, String.ofList_inj, true_and]
  constructor
  · exact fun h => (pathFrom_append_eq_iff host.toList hp).mp h.2
  · intro hfree
    refine ⟨?_, (pathFrom_append_eq_iff host.toList hp).mpr hfree⟩
    rw [List.takeWhile_append_of_pos (before_slash_of_not_mem hfree), takeWhile_of_head? hp,
      List.append_nil, String.ofList_toList]

/-- Replacing the host twice is replacing it once, exactly when the first host has no
slash. -/
theorem withHost_withHost (url h₁ h₂ : String) :
    withHost (withHost url h₁) h₂ = withHost url h₂ ↔ '/' ∉ h₁.toList := by
  rw [withHost_eq (withHost url h₁), schemeAndRest_withHost, withHost_eq url h₂,
    String.ofList_inj]
  simp only [List.append_cancel_left_eq, List.cons.injEq, true_and]
  exact pathFrom_append_eq_iff h₁.toList (head?_pathFrom _)

example : withHost "ws://192.168.4.1/ws" "10.0.0.42" = "ws://10.0.0.42/ws" := by decide
example : withHost "ws://192.168.4.1:8080" "10.0.0.42" = "ws://10.0.0.42/" := by decide

/-! ## Adopting an address -/

/-- The URL whose host adopting an address replaces: the portal's for a session reached
through the portal, the session's own otherwise. -/
def Endpoint.adoptionBase (portalUrl : String) : Endpoint → String
  | .captive .. => portalUrl
  | .direct url => url

namespace SessionDirectory

variable (d : SessionDirectory)

theorem id_of_get? {id : DeviceId} {s : DeviceSession} (h : d.get? id = some s) : s.id = id := by
  simpa using List.find?_some h

/-- Changing the session of `id` changes what `get?` finds for `id` only. -/
theorem get?_modify (id id' : DeviceId) {f : DeviceSession → DeviceSession}
    (hf : ∀ s, (f s).id = s.id) :
    (d.modify id f).get? id' = (d.get? id').map fun s => if s.id == id then f s else s := by
  have hsame : ((·.id == id') ∘ fun s => if s.id == id then f s else s) = (·.id == id') := by
    funext s
    simp only [Function.comp_apply]
    split <;> simp [hf]
  unfold get? modify
  rw [List.find?_map, hsame]

/-- Updating the endpoint of the active session changes it and saves the selection. -/
theorem updateEndpoint_of_active {id : DeviceId} {s : DeviceSession} (hs : d.get? id = some s)
    (ha : d.active = some id) (endpoint : Endpoint) (now : Instant) :
    d.updateEndpoint id endpoint now =
      (d.modify id fun x => { x with viaPortal := false, endpoint }).persist id endpoint now := by
  unfold updateEndpoint
  rw [hs]
  simp [ha]

@[simp] theorem get?_persist (id id' : DeviceId) (endpoint : Endpoint) (now : Instant) :
    (d.persist id endpoint now).get? id' = d.get? id' := by
  simp [get?]

end SessionDirectory

namespace Host

/-- The endpoint adopting `ip` gives the active session `s`. -/
def adoptedEndpoint (h : Host) (s : DeviceSession) (ip : String) : Endpoint :=
  .direct (withHost (s.endpoint.adoptionBase h.config.provisioning.portalUrl) ip)

variable {h : Host} {s : DeviceSession}

/-- With a session active, adopting an address points it at the adopted URL. -/
theorem adoptAddress_of_active (ha : h.sessions.activeSession? = some s) (ip : String) :
    h.adoptAddress ip =
      { h with sessions := h.sessions.updateEndpoint s.id (h.adoptedEndpoint s ip) h.now } := by
  unfold adoptAddress adoptedEndpoint
  rw [ha]
  dsimp only
  cases he : s.endpoint <;> simp only [Endpoint.adoptionBase]

/-- Adopting an address with a session active: the session is reached directly at the
adopted URL and no longer through the portal, every other session stays, the selection is
saved with the new endpoint, and nothing else of the host changes. -/
theorem adoptAddress_active (ha : h.sessions.activeSession? = some s) (hv : h.now.Valid)
    (ip : String) :
    (h.adoptAddress ip).sessions.activeSession? =
        some { s with viaPortal := false, endpoint := h.adoptedEndpoint s ip } ∧
      (∀ id, id ≠ s.id → (h.adoptAddress ip).sessions.get? id = h.sessions.get? id) ∧
      (h.adoptAddress ip).sessions.lastSelected =
        some { deviceId := s.id, endpoint := h.adoptedEndpoint s ip, savedAt := h.now } ∧
      { h.adoptAddress ip with sessions := h.sessions } = h := by
  obtain ⟨id, hact, hget⟩ := Option.bind_eq_some_iff.mp ha
  obtain rfl : s.id = id := h.sessions.id_of_get? hget
  have hsess := h.sessions.updateEndpoint_of_active hget hact (h.adoptedEndpoint s ip) h.now
  have hmod : ∀ x : DeviceSession,
      ({ x with viaPortal := false, endpoint := h.adoptedEndpoint s ip } : DeviceSession).id = x.id :=
    fun _ => rfl
  rw [adoptAddress_of_active ha]
  refine ⟨?_, fun id hid => ?_, ?_, rfl⟩
  · simp [hsess, SessionDirectory.activeSession?, hact, SessionDirectory.get?_modify _ _ _ hmod,
      hget]
  · rw [hsess, SessionDirectory.get?_persist, SessionDirectory.get?_modify _ _ _ hmod]
    cases hg : h.sessions.get? id with
    | none => rfl
    | some x =>
      have hx : x.id ≠ s.id := (h.sessions.id_of_get? hg) ▸ hid
      simp [hx]
  · rw [hsess]
    exact SessionDirectory.persist_lastSelected _ hv _ _

end Host

/-- Adopting a device's station address rewrites the authority of the control URL: with no
session active nothing changes; with one active, the session is reached directly at the URL
`withHost` makes from its base, every other session stays, the selection is saved with the new
endpoint and nothing else of the host changes.  Read back, the new URL has the base's scheme
and path and exactly the address as its authority, and replacing a host twice is replacing it
once, both exactly when the address has no slash. -/
theorem address_adoption_rewrites_authority :
    (∀ (h : Host) (ip : String), h.sessions.active = none → h.adoptAddress ip = h) ∧
      (∀ (h : Host) (s : DeviceSession) (ip : String), h.sessions.activeSession? = some s →
        h.now.Valid →
        (h.adoptAddress ip).sessions.activeSession? =
            some { s with viaPortal := false, endpoint := h.adoptedEndpoint s ip } ∧
          (∀ id, id ≠ s.id → (h.adoptAddress ip).sessions.get? id = h.sessions.get? id) ∧
          (h.adoptAddress ip).sessions.lastSelected =
            some { deviceId := s.id, endpoint := h.adoptedEndpoint s ip, savedAt := h.now } ∧
          { h.adoptAddress ip with sessions := h.sessions } = h) ∧
      (∀ base ip : String,
        urlParts (withHost base ip) = ((urlParts base).1, ip, (urlParts base).2.2) ↔
          '/' ∉ ip.toList) ∧
      ∀ url h₁ h₂ : String, withHost (withHost url h₁) h₂ = withHost url h₂ ↔ '/' ∉ h₁.toList :=
  ⟨fun h ip hn => Host.adoptAddress_of_inactive h hn ip,
    fun _ _ ip ha hv => Host.adoptAddress_active ha hv ip, urlParts_withHost, withHost_withHost⟩

/-- A portal session whose device reports `10.0.0.42` is then reached at
`ws://10.0.0.42/ws`, and the same host with no session active is left as it is. -/
theorem portal_session_adopts_station_address :
    let s := DeviceSession.new ⟨"esp32m-1a2b"⟩ (.captive "esp32m-1a2b" none "ws://192.168.4.1/ws")
      ⟨20000, 0, 0⟩
    let h : Host :=
      { config := {}, origin := ⟨20000, 0, 0⟩, fanout := Fanout.new {} 1,
        sessions := { sessions := [s], active := some s.id, store := {},
                      expiry := Span.ofMillis 120000 },
        joiner := {}, scan := .ok [] }
    h.sessions.activeSession? = some s ∧ h.now.Valid ∧
      (h.adoptAddress "10.0.0.42").sessions.activeSession? =
        some { s with viaPortal := false, endpoint := .direct "ws://10.0.0.42/ws" } ∧
      { h with sessions := { h.sessions with active := none } }.sessions.active = none ∧
      { h with sessions := { h.sessions with active := none } }.adoptAddress "10.0.0.42" =
        { h with sessions := { h.sessions with active := none } } := by
  intro s h
  have ha : h.sessions.activeSession? = some s := by decide
  have hv : h.now.Valid := ⟨by decide, by decide, by decide, by decide⟩
  have hurl : h.adoptedEndpoint s "10.0.0.42" = .direct "ws://10.0.0.42/ws" := by decide
  refine ⟨ha, hv, ?_, rfl, address_adoption_rewrites_authority.1 _ _ rfl⟩
  rw [(address_adoption_rewrites_authority.2.1 h s "10.0.0.42" ha hv).1, hurl]

/-- An address with a slash is not all authority: adopting `10.0.0.42/x` puts `/x` into the
path, and adopting `10.0.0.7` after it keeps it there. -/
theorem slashed_address_stays_in_path :
    urlParts (withHost "ws://192.168.4.1/ws" "10.0.0.42/x") = ("ws", "10.0.0.42", "/x/ws") ∧
      withHost (withHost "ws://192.168.4.1/ws" "10.0.0.42/x") "10.0.0.7" = "ws://10.0.0.7/x/ws" ∧
      withHost "ws://192.168.4.1/ws" "10.0.0.7" = "ws://10.0.0.7/ws" := by
  decide

end Tether
