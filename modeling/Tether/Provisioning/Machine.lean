import Tether.Error
/-!
# Provisioning.Machine — the provisioning state machine

A device starts `unconfigured`.  When its portal is advertised it is in AP mode; a scan moves
it to `scanning`; credentials that pass `checkCredentials` start a join; the device then
reports success (`joined`) or failure (`faulted`), or the join timer runs out (`faulted`
by timeout).  A joined device can be reset, and a faulted one retried.

`step` is the whole machine: the next state and the effects to carry out, in order, or
`invalidTransition` naming the state and the action refused.  The WiFi commands the
machine issues have the schemas of `commandSchemas`.
-/

namespace Tether

open Tether.Json

set_option autoImplicit false

/-- Ask the device to scan for networks. -/
def wifiScanTopic : String := "wifi/scan"
/-- Ask the device to join a network. -/
def wifiConnectTopic : String := "wifi/connect"
/-- Ask the device to drop its stored credentials. -/
def wifiForgetTopic : String := "wifi/forget"

/-- The longest SSID, in bytes. -/
def ssidMaxBytes : Nat := 32
/-- The shortest non-empty passphrase, in bytes. -/
def passphraseMin : Nat := 8
/-- The longest passphrase, in bytes. -/
def passphraseMax : Nat := 63

/-- The schemas of the commands the machine issues, in this order. -/
def commandSchemas : List (String × CommandSchema) :=
  [(wifiScanTopic, .empty),
   (wifiConnectTopic, (((CommandSchema.empty.required "ssid" .string).length 1 ssidMaxBytes).required
      "password" .string).length 0 passphraseMax),
   (wifiForgetTopic, .empty)]

/-- Something that can move the machine. -/
inductive ProvisioningInput where
  | portalAdvertised (ssid : String)
  | scanRequested
  | credentialsSubmitted (ssid password : String)
  | associated (ssid ip : Option String)
  | associationFailed (reason : String)
  | joinTimedOut
  | factoryReset
  | retryRequested
  deriving DecidableEq, Repr

/-- The action an input asks for, as error messages name it. -/
def ProvisioningInput.action : ProvisioningInput → String
  | .portalAdvertised _ => "enter AP mode"
  | .scanRequested => "scan"
  | .credentialsSubmitted _ _ => "submit credentials"
  | .associated _ _ => "complete join"
  | .associationFailed _ => "fail join"
  | .joinTimedOut => "time out join"
  | .factoryReset => "factory reset"
  | .retryRequested => "retry"

/-- A side effect a transition asks for. -/
inductive Effect where
  /-- Send a command with this topic and payload to the device. -/
  | issue (topic : String) (payload : Json)
  | startJoinTimer
  | cancelJoinTimer
  /-- The device reported its address on the joined network. -/
  | adoptAddress (ip : String)

/-- Checks WiFi credentials before they are sent: an SSID of 1 to 32 bytes, and a passphrase
that is empty or has 8 to 63 bytes. -/
def checkCredentials (ssid password : String) : Except ProvisioningError Unit :=
  if ssid.isEmpty ∨ ssid.utf8ByteSize > ssidMaxBytes then
    .error (.invalidCredentials ("SSID must be 1 to " ++ toString ssidMaxBytes ++ " bytes"))
  else
    let n := password.utf8ByteSize
    if n ≠ 0 ∧ (n < passphraseMin ∨ n > passphraseMax) then
      .error (.invalidCredentials ("passphrase must be empty or " ++ toString passphraseMin ++
        " to " ++ toString passphraseMax ++ " characters"))
    else .ok ()

/-- The next state and its effects, or why the input is refused in this state. -/
def ProvisioningState.step :
    ProvisioningState → ProvisioningInput → Except ProvisioningError (ProvisioningState × List Effect)
  | .unconfigured, .portalAdvertised ssid => .ok (.apMode ssid, [])
  | .apMode _, .scanRequested | .scanning, .scanRequested =>
    .ok (.scanning, [.issue wifiScanTopic (Json.object [])])
  | .scanning, .credentialsSubmitted ssid password => do
    checkCredentials ssid password
    pure (.joining ssid,
      [.issue wifiConnectTopic (Json.object [("ssid", .str ssid), ("password", .str password)]),
       .startJoinTimer])
  | .joining ssid, .associated _ ip =>
    .ok (.joined ssid, .cancelJoinTimer :: (ip.map Effect.adoptAddress).toList)
  | .unconfigured, .associated (some ssid) _ => .ok (.joined ssid, [])
  | .joining _, .associationFailed reason => .ok (.faulted (.deviceRejected reason), [.cancelJoinTimer])
  | .joining _, .joinTimedOut => .ok (.faulted .provisioningTimeout, [])
  | .joined _, .factoryReset => .ok (.unconfigured, [.issue wifiForgetTopic (Json.object [])])
  | .faulted _, .retryRequested => .ok (.scanning, [.issue wifiScanTopic (Json.object [])])
  | s, i => .error (.invalidTransition s.name i.action)

/-- The text of a URL before its first `://` and the text after it, when it has one. -/
def splitScheme : List Char → Option (List Char × List Char)
  | ':' :: '/' :: '/' :: rest => some ([], rest)
  | c :: rest => (splitScheme rest).map fun (s, r) => (c :: s, r)
  | [] => none

/-- The path of the text after a URL's scheme: from its first `/`, or `/` when it has none. -/
def pathFrom (rest : List Char) : List Char :=
  match rest.dropWhile (· ≠ '/') with
  | [] => ['/']
  | p => p

/-- Replaces the host of a URL `scheme://host[:port]/path`: the scheme defaults to `ws` and
the path, from the first `/` after the authority, to `/`. -/
def withHost (url host : String) : String :=
  let (scheme, rest) := (splitScheme url.toList).getD ("ws".toList, url.toList)
  String.ofList (scheme ++ "://".toList ++ host.toList ++ pathFrom rest)

end Tether
