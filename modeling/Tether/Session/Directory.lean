import Tether.Storage
/-!
# Session.Directory — the devices the host knows and the one it is using

The directory holds one session per device id, in id order, and marks at most one of
them active.  The active selection is also written to the configuration store as the
*last session*, so that the next start can reconnect to it; closing a session keeps that
record, forgetting the device removes it.

* `discovered` records a device found by a portal probe; a known device only has its
  last-seen time refreshed.
* `activate` selects a device reached through an endpoint.  Inactive sessions reached
  through the same endpoint were placeholders made before the device told its real id,
  and go.
* `expireStale` removes the sessions not heard from within the expiry window: the
  configured span, or 5200 weeks when the span is longer than a signed time delta holds.
  The active session expires only once its link is unreachable.

A store that cannot be read or written never stops an operation: the record is simply
missing.
-/

namespace Tether

set_option autoImplicit false

/-- Known device sessions, the active one, and the store of the last selection. -/
structure SessionDirectory where
  /-- One session per device id, in id order. -/
  sessions : List DeviceSession := []
  active : Option DeviceId := none
  store : ConfigStore
  /-- How long a session may go unheard before it expires. -/
  expiry : Span

/-- The longest span a signed time delta holds: `2^63 - 1` milliseconds. -/
def Span.deltaMax : Span := Span.ofMillis 9223372036854775807

/-- The window ages are compared with for an expiry span: the span itself, or 5200 weeks
when it is longer than a signed time delta holds. -/
def Span.expiryWindow (s : Span) : Span :=
  if Span.deltaMax.lt s then ⟨5200 * 7 * 86400, 0⟩ else s

/-- Inserts a session into an id-ordered list, replacing the one of its id. -/
def upsertSession (s : DeviceSession) : List DeviceSession → List DeviceSession
  | [] => [s]
  | x :: rest =>
    if s.id.val < x.id.val then s :: x :: rest
    else if s.id.val = x.id.val then s :: rest
    else x :: upsertSession s rest

namespace SessionDirectory

/-- The session of a device. -/
def get? (d : SessionDirectory) (id : DeviceId) : Option DeviceSession :=
  d.sessions.find? (·.id == id)

/-- The active session. -/
def activeSession? (d : SessionDirectory) : Option DeviceSession :=
  d.active.bind d.get?

/-- The last selection saved in the store, if it can be read. -/
def lastSelected (d : SessionDirectory) : Option LastSession :=
  match d.store.loadLastSession with
  | .ok last => last
  | .error _ => none

/-- Changes the session of a device, if it is known. -/
def modify (d : SessionDirectory) (id : DeviceId) (f : DeviceSession → DeviceSession) :
    SessionDirectory :=
  { d with sessions := d.sessions.map fun s => if s.id == id then f s else s }

/-- Records a device found by a portal probe: the session as it now stands. -/
def discovered (d : SessionDirectory) (id : DeviceId) (endpoint : Endpoint) (now : Instant) :
    DeviceSession × SessionDirectory :=
  match d.get? id with
  | some s =>
    let s := { s with lastSeen := now }
    (s, { d with sessions := upsertSession s d.sessions })
  | none =>
    let s := DeviceSession.new id endpoint now
    (s, { d with sessions := upsertSession s d.sessions })

/-- Saves a selection as the last session; a store that refuses it is left as it was. -/
def persist (d : SessionDirectory) (id : DeviceId) (endpoint : Endpoint) (now : Instant) :
    SessionDirectory :=
  match d.store.saveLastSession { deviceId := id, endpoint, savedAt := now } with
  | .ok store => { d with store }
  | .error _ => d

/-- Makes a device the active session, reached through `endpoint`, and saves the
selection.  Other sessions reached through the same endpoint go. -/
def activate (d : SessionDirectory) (id : DeviceId) (endpoint : Endpoint) (now : Instant) :
    SessionDirectory :=
  let kept := d.sessions.filter fun s => s.id == id || s.endpoint != endpoint
  let s := match kept.find? (·.id == id) with
    | some s => { s with endpoint, lastSeen := now }
    | none => DeviceSession.new id endpoint now
  { d with sessions := upsertSession s kept, active := some id }.persist id endpoint now

/-- Clears the active mark; the session stays known, disconnected. -/
def deactivate (d : SessionDirectory) : SessionDirectory :=
  match d.active with
  | none => d
  | some id => { d.modify id (fun s => { s with link := .disconnected }) with active := none }

/-- Removes the active session; the saved selection stays.  The id it had, if any. -/
def close (d : SessionDirectory) : Option DeviceId × SessionDirectory :=
  match d.active with
  | none => (none, d)
  | some id => (some id, { d with sessions := d.sessions.filter (·.id != id), active := none })

/-- Removes a device, and the saved selection if it names that device (a store that
refuses to remove it keeps it). -/
def forget (d : SessionDirectory) (id : DeviceId) : SessionDirectory :=
  let d := { d with sessions := d.sessions.filter (·.id != id),
                    active := if d.active == some id then none else d.active }
  match d.lastSelected with
  | some last =>
    if last.deviceId == id then
      match d.store.clearLastSession with
      | .ok store => { d with store }
      | .error _ => d
    else d
  | none => d

/-- Sets the link state shown on a session. -/
def setLink (d : SessionDirectory) (id : DeviceId) (link : LinkState) : SessionDirectory :=
  d.modify id fun s => { s with link }

/-- Notes that a device was heard from. -/
def touch (d : SessionDirectory) (id : DeviceId) (now : Instant) : SessionDirectory :=
  d.modify id fun s => { s with lastSeen := now }

/-- Points a session at a new endpoint, no longer through the portal; the saved selection
follows when the session is active. -/
def updateEndpoint (d : SessionDirectory) (id : DeviceId) (endpoint : Endpoint) (now : Instant) :
    SessionDirectory :=
  match d.get? id with
  | none => d
  | some _ =>
    let d := d.modify id fun s => { s with viaPortal := false, endpoint }
    if d.active == some id then d.persist id endpoint now else d

/-- Whether a session has gone unheard for longer than the expiry window at `now`; the
active one only once its link is unreachable. -/
def isExpired (d : SessionDirectory) (now : Instant) (s : DeviceSession) : Bool :=
  (d.active != some s.id || s.link == .unreachable) &&
    d.expiry.expiryWindow.lt (s.lastSeen.ageAt now)

/-- Removes the expired sessions: their ids, in id order, and the directory after. -/
def expireStale (d : SessionDirectory) (now : Instant) : List DeviceId × SessionDirectory :=
  let gone := (d.sessions.filter (d.isExpired now)).map (·.id)
  (gone, { d with sessions := d.sessions.filter (fun s => !gone.contains s.id),
                  active := if d.active.any gone.contains then none else d.active })

end SessionDirectory

end Tether
