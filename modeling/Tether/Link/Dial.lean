import Tether.Error
import Tether.Net.Uri
import Tether.Net.SocketAddress
/-!
# Link.Dial — opening the control channel on a host without a network

Opening the channel to a device reads its URL, finds the host and port to dial, and
opens a socket.  The host this library models has no network interface up, so every
attempt fails, and the reason is what a user sees:

1. a URL that does not read (`Uri.parse`) fails with that reason;
2. a URL without an authority has no host name; one with nothing after the first `@` of
   its authority has an empty host name;
3. the port is the one written, else 80 for `ws` and 443 for `wss`; another scheme
   without a port is not supported;
4. a host that is an IP address (with the port, a socket address) is unreachable at
   once; a name must first be looked up, which takes time: with no time at all for the
   attempt it times out, `localhost` is found and then unreachable, and any other name
   cannot be looked up.
-/

namespace Tether

set_option autoImplicit false

/-- The reason a socket cannot reach an address on this host. -/
def unreachableReason : String := "IO error: Network is unreachable (os error 101)"

/-- The reason a host name cannot be looked up on this host. -/
def lookupFailureReason : String :=
  "IO error: failed to lookup address information: Temporary failure in name resolution"

/-- The port a URL dials: the one written, else the default of its scheme. -/
def dialPort (u : Uri) : Option Nat :=
  match u.port? with
  | some p => some p
  | none =>
    match u.scheme with
    | some "ws" => some 80
    | some "wss" => some 443
    | _ => none

/-- Why opening the control channel to `url` fails, given the time allowed for it. -/
def dialFailure (url : String) (connectTimeoutMs : Nat) : LinkError :=
  match Uri.parse url with
  | .error e => .socket ("HTTP format error: " ++ e.message)
  | .ok u =>
    if u.authority.isEmpty then .socket "URL error: No host name in the URL"
    else if u.authority.contains '@' && ((u.authority.splitOn "@").drop 1 |> "@".intercalate).isEmpty then
      .socket "URL error: URL contains empty host name"
    else
      match dialPort u with
      | none => .socket "URL error: URL scheme not supported"
      | some port =>
        let host := u.host
        if (SocketAddress.parse (host ++ ":" ++ toString port)).isSome then .socket unreachableReason
        else if connectTimeoutMs == 0 then .connectTimeout url
        else if host.toList.map Char.toLower == "localhost".toList then .socket unreachableReason
        else .socket lookupFailureReason

end Tether
