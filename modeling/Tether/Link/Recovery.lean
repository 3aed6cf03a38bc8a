import Tether.Error
import Tether.Frame
import Tether.Reconnect
import Tether.Session.Directory
/-!
# Link.Recovery — winning a lost link back

When the link to a device is lost and nobody cancelled it, the link's supervisor tries to
reach the same device again (`recover`):

1. it takes the endpoint the directory now holds for the device, else the one the link
   used; a portal network joined for the link that this endpoint does not name is left;
2. attempt after attempt (`Recovery.retry`), counted from zero: once `maxAttempts` attempts
   have failed it publishes `unreachable` and stops; otherwise it publishes
   `reconnecting` with the attempt's number counted from one, waits the back-off, joins
   the endpoint's portal network if it has one and it is not joined, and dials the
   endpoint's URL (`Recovery.attemptOnce`);
3. the attempt reaches the device only if the device that says hello is the one that was
   lost; any other device, a failed dial or a failed join is a failed attempt;
4. reaching the device publishes `connected`; otherwise the portal network still joined
   is left.

A cancellation, by a newer session or a disconnect, during the wait, the join or the dial
stops the recovery where it is, without publishing.  A join that fails or is cancelled
leaves the portal network again, since it may have been joined in part.

What the world answers is given as data: for each attempt, whether the wait is cut short,
how the join ends if there is one, and how the dial ends (`AttemptAnswers`).
-/

namespace Tether

set_option autoImplicit false

/-- How joining a device's portal network ends. -/
inductive JoinAnswer where
  | joined
  | failed (message : String)
  | cancelled

/-- How opening the channel to a device ends. -/
inductive DialAnswer where
  /-- The channel is open and a device has said hello. -/
  | hello (h : DeviceHello)
  | failed (e : LinkError)
  | cancelled

/-- What the world answers during one attempt. -/
structure AttemptAnswers where
  /-- A cancellation cuts the back-off wait short. -/
  cancelledInWait : Bool
  /-- How joining the portal network ends, if the attempt joins it. -/
  join : JoinAnswer
  dial : DialAnswer

/-- What the supervisor does on its way back to a device. -/
inductive RecoveryStep where
  | publish (s : LinkState)
  /-- Waits the back-off before an attempt, counted from zero. -/
  | wait (attempt : Nat)
  | join (ssid : String) (passphrase : Option String)
  | leave (ssid : String)
  | dial (url : String)
  deriving DecidableEq

/-- How one attempt ends. -/
inductive AttemptEnd where
  | reached (h : DeviceHello)
  | failed
  | cancelled

/-- How a recovery ends. -/
inductive RecoveryEnd where
  | reached (h : DeviceHello)
  | unreachable
  | cancelled

namespace Recovery

/-- Dials `url`; only the device that was lost counts as reached. -/
def dialOnce (id : DeviceId) (url : String) : DialAnswer → List RecoveryStep × AttemptEnd
  | .hello h => ([.dial url], if h.deviceId = id then .reached h else .failed)
  | .failed _ => ([.dial url], .failed)
  | .cancelled => ([.dial url], .cancelled)

/-- One attempt after its wait, with the portal network joined before it; also returns the
portal network joined after it. -/
def attemptOnce (id : DeviceId) (ep : Endpoint) (portal : Option String) (a : AttemptAnswers) :
    List RecoveryStep × AttemptEnd × Option String :=
  match ep, portal with
  | .captive ssid passphrase url, none =>
    match a.join with
    | .joined =>
      (.join ssid passphrase :: (dialOnce id url a.dial).1, (dialOnce id url a.dial).2, some ssid)
    | .failed _ => ([.join ssid passphrase, .leave ssid], .failed, none)
    | .cancelled => ([.join ssid passphrase, .leave ssid], .cancelled, none)
  | _, _ => ((dialOnce id ep.url a.dial).1, (dialOnce id ep.url a.dial).2, portal)

/-- The attempts from `attempt` on, with the portal network joined before them: what they
do, how they end, and the portal network joined after them. -/
def retry (p : ReconnectPolicy) (id : DeviceId) (ep : Endpoint) (answers : Nat → AttemptAnswers)
    (attempt : Nat) (portal : Option String) : List RecoveryStep × RecoveryEnd × Option String :=
  if p.givesUp attempt then ([.publish .unreachable], .unreachable, portal)
  else
    let begin := [RecoveryStep.publish (.reconnecting (attempt + 1)), .wait attempt]
    if (answers attempt).cancelledInWait then (begin, .cancelled, portal)
    else
      match attemptOnce id ep portal (answers attempt) with
      | (steps, .reached hello, portal) => (begin ++ steps, .reached hello, portal)
      | (steps, .cancelled, portal) => (begin ++ steps, .cancelled, portal)
      | (steps, .failed, portal) =>
        let rest := retry p id ep answers (attempt + 1) portal
        (begin ++ steps ++ rest.1, rest.2)
termination_by p.maxAttempts - attempt
decreasing_by
  -- an attempt is made only while fewer than `maxAttempts` have failed
  simp_all [ReconnectPolicy.givesUp]
  omega

end Recovery

/-- Winning back the lost link to device `id`, reached through `held` with the portal
network `portal` joined: what the supervisor does, and how it ends. -/
def recover (p : ReconnectPolicy) (d : SessionDirectory) (id : DeviceId) (held : Endpoint)
    (portal : Option String) (answers : Nat → AttemptAnswers) : List RecoveryStep × RecoveryEnd :=
  let ep := ((d.get? id).map (·.endpoint)).getD held
  -- the device has left portal mode, or moved to another portal network
  let first := if portal ≠ ep.portalSsid then portal.toList.map .leave else []
  let joined := if portal ≠ ep.portalSsid then none else portal
  let tried := Recovery.retry p id ep answers 0 joined
  match tried.2.1 with
  | .reached h => (first ++ tried.1 ++ [.publish .connected], .reached h)
  | e => (first ++ tried.1 ++ tried.2.2.toList.map .leave, e)

end Tether
