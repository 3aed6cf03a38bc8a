import Tether.Host.Plugins
/-!
# Host.Clock — the passing of time in a host

Two timers run on a host's clock:

* **housekeeping**, every `housekeepingIntervalMs` from the start (the tick at the start
  itself finds nothing to do), expires the sessions not heard from within the expiry
  span; if that removes the active session, its link is dropped as on a disconnect and
  provisioning starts over;
* the **join timer** of the provisioning driver, armed while a join waits for the device
  to associate, feeds `joinTimedOut` to the machine when it fires.

`Host.advanceTo` moves the clock to a later time, firing every timer that falls due on
the way in time order, and letting the background work run after each.  A housekeeping
interval of zero starts no housekeeping at all.
-/

namespace Tether

set_option autoImplicit false

namespace Host

/-- Microseconds in a millisecond. -/
def microsPerMilli : Nat := 1000

/-- Drops the link of the active session, as its loss or expiry does: the next epoch
starts and the link shows disconnected. -/
def loseActive (h : Host) : Host :=
  { h with fanout := h.fanout.resetSession }.setLink .disconnected

/-- One housekeeping round: expire idle sessions. -/
def housekeep (h : Host) : Host :=
  let active := h.sessions.active
  let (gone, sessions) := h.sessions.expireStale h.now
  let h := { h with sessions }
  if active.any gone.contains then (h.loseActive).reseed none else h

/-- The time the next timer falls due, if one is armed. -/
def nextDue (h : Host) : Option Nat :=
  match h.nextHousekeeping, h.joinTimer with
  | some a, some b => some (min a b)
  | some a, none => some a
  | none, b => b

/-- Fires a timer that is due by the current time, the join timer first. -/
def fireDue (h : Host) : Host :=
  if h.joinTimer.any (· ≤ h.clock) then
    ({ h with joinTimer := none }.applyInput .joinTimedOut).2
  else if h.nextHousekeeping.any (· ≤ h.clock) then
    let interval := h.config.session.housekeepingIntervalMs * microsPerMilli
    { h with nextHousekeeping := some (h.clock + interval) }.housekeep
  else h

/-- Moves the clock forward to `t`, firing due timers in order; at most `fuel` timers. -/
def advanceWithin (h : Host) (t : Nat) : Nat → Host
  | 0 => { h with clock := max h.clock t }
  | fuel + 1 =>
    match h.nextDue with
    | some due =>
      if due ≤ t then advanceWithin ({ h with clock := max h.clock due }.fireDue.settle) t fuel
      else { h with clock := max h.clock t }
    | none => { h with clock := max h.clock t }

/-- How many timers can fall due before `t`: every housekeeping tick, and the join timer. -/
def timersBefore (h : Host) (t : Nat) : Nat :=
  let interval := h.config.session.housekeepingIntervalMs * microsPerMilli
  (if interval = 0 then 0 else (t - h.clock) / interval + 1) + 2

/-- Moves the clock forward to `t`, firing the timers that fall due on the way. -/
def advanceTo (h : Host) (t : Nat) : Host := h.advanceWithin t (h.timersBefore t)

/-- Lets `ms` milliseconds pass. -/
def sleep (h : Host) (ms : Nat) : Host := h.advanceTo (h.clock + ms * microsPerMilli)

/-- Lets time pass until `goal` holds or `t` is reached, checking after every timer;
whether it came to hold.  At most `fuel` timers. -/
def waitWithin (h : Host) (goal : Host → Bool) (t : Nat) : Nat → Bool × Host
  | 0 => (goal h, h)
  | fuel + 1 =>
    if goal h then (true, h)
    else match h.nextDue with
      | some due =>
        if due ≤ t then waitWithin ({ h with clock := max h.clock due }.fireDue.settle) goal t fuel
        else (false, { h with clock := max h.clock t })
      | none => (false, { h with clock := max h.clock t })

/-- Waits up to `ms` milliseconds for `goal` to hold. -/
def waitFor (h : Host) (goal : Host → Bool) (ms : Nat) : Bool × Host :=
  let t := h.clock + ms * microsPerMilli
  h.waitWithin goal t (h.timersBefore t)

end Host

end Tether
