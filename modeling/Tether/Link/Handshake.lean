import Tether.Error
/-!
# Link.Handshake — what a device's channel carries, and the hello that opens it

Once the socket to a device is open, reading it gives one message at a time
(`WireMessage`): a text frame, a binary frame, a ping or a pong, a close, or a failure of
the socket.  A list of messages is what the device sends until its channel ends.

The host greets the device and reads up to the device's hello (`handshake`):

1. a text frame is decoded (`DeviceFrame.ofText`): a hello ends the handshake, and the
   messages after it stay unread in the channel; an event or a reply before the hello is
   passed over; a text that is no frame fails the handshake with its codec error;
2. a binary frame fails it, as a frame that should have been text;
3. a ping or a pong is passed over;
4. a close, or the end of the messages, fails it: the channel closed before the hello;
5. a failure of the socket, in sending the host's hello or in reading, fails it with the
   socket's reason.

How opening the channel ends is the world's answer (`ChannelAnswer`): the socket opens and
the device's messages follow, or it does not open, for a reason the world gives.
-/

namespace Tether

set_option autoImplicit false

/-- One message read from a device's channel. -/
inductive WireMessage where
  | text (s : String)
  | binary
  /-- A ping or a pong, which the socket layer answers itself. -/
  | control
  | close
  /-- The socket failed; the text says how. -/
  | failure (reason : String)

/-- Why a handshake fails when the channel closes before the device's hello. -/
def closedBeforeHello : String := "channel closed before device hello"

/-- Reads a device's messages up to its hello: the hello and the messages after it, or why
the handshake fails. -/
def handshake : List WireMessage → Except LinkError (DeviceHello × List WireMessage)
  | [] => .error (.handshake closedBeforeHello)
  | .text t :: rest =>
    match DeviceFrame.ofText t with
    | .ok (.hello h) => .ok (h, rest)
    | .ok _ => handshake rest
    | .error e => .error (.codec e)
  | .binary :: _ => .error (.codec .binaryFrame)
  | .control :: rest => handshake rest
  | .close :: _ => .error (.handshake closedBeforeHello)
  | .failure reason :: _ => .error (.socket reason)

/-- How opening the control channel ends, as the world answers. -/
inductive ChannelAnswer where
  /-- The socket opens, and the device's messages follow in order. -/
  | opened (messages : List WireMessage)
  /-- The channel does not open: the dial is refused, fails, times out or is cancelled, as
  the error says. -/
  | failed (e : LinkError)

/-- The device's hello and the messages after it, or why the channel did not open. -/
def ChannelAnswer.greet : ChannelAnswer → Except LinkError (DeviceHello × List WireMessage)
  | .opened messages => handshake messages
  | .failed e => .error e

end Tether
