import Tether.Bus.Fanout
/-!
# Bus.Handle — what keeps a subscription alive

Subscribing gives back a handle.  Its holder ends the subscription by cancelling the handle
or by dropping it; detaching it instead keeps the subscription for the life of the bus.
Either way the handle is used up: a cancelled or detached handle is dropped at once, and
dropping a handle that was already released or detached does nothing, so a subscription is
released at most once.
-/

namespace Tether

set_option autoImplicit false

/-- The handle of one subscription; `active` until it has been released or detached. -/
structure SubscriptionHandle where
  id : Nat
  active : Bool := true

namespace SubscriptionHandle

/-- Releases the subscription, the first time only. -/
def release (h : SubscriptionHandle) (f : Fanout) : SubscriptionHandle × Fanout :=
  if h.active then ({ h with active := false }, f.unsubscribe h.id) else (h, f)

/-- Dropping a handle releases it. -/
def drop (h : SubscriptionHandle) (f : Fanout) : Fanout := (h.release f).2

/-- Cancels the subscription; the handle is dropped after. -/
def cancel (h : SubscriptionHandle) (f : Fanout) : Fanout :=
  (h.release f).1.drop (h.release f).2

/-- Keeps the subscription for the life of the bus; the handle is dropped after. -/
def detach (h : SubscriptionHandle) (f : Fanout) : Fanout :=
  ({ h with active := false } : SubscriptionHandle).drop f

end SubscriptionHandle

/-- Subscribes to a pattern: the handle of the new subscription, and the bus after. -/
def Fanout.subscribeHandle (f : Fanout) (pattern : TopicPattern) (owner : Option PluginId)
    (now : Instant) : SubscriptionHandle × Fanout :=
  ({ id := (f.subscribe pattern owner now).1 }, (f.subscribe pattern owner now).2)

end Tether
