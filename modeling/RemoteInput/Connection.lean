import RemoteInput.Settings
import RemoteInput.SystemError

/-!
# Opening the control stream

Depending on its settings the server listens at its endpoint and accepts one
client, or connects to a client that listens there.  To a client that it
accepted it may first send one zero byte.  This file says what either way does
in a network that knows who listens where and which endpoints can be reached.
-/

namespace RemoteInput

/-- Why there is no control stream. -/
inductive ConnectionError where
  | bind (endpoint : Endpoint) (reason : SystemError)
  | connect (endpoint : Endpoint) (reason : SystemError)
  | cancelled
  deriving DecidableEq, Repr

namespace ConnectionError

/-- The wording of a stream that was not opened; the endpoint is shown as
given. -/
def message (shown : Endpoint → String) : ConnectionError → String
  | .bind endpoint reason => "could not listen on " ++ shown endpoint ++ ": " ++ reason.message
  | .connect endpoint reason =>
      "could not connect to " ++ shown endpoint ++ ": " ++ reason.message
  | .cancelled => "cancelled while establishing the connection"

end ConnectionError

/-- Who listens where, and which endpoints can be reached. -/
structure Network where
  listening : List Endpoint
  reaches : Endpoint → Bool

namespace Network

/-- Listens at an endpoint where nobody else does. -/
def listen (network : Network) (endpoint : Endpoint) : Except ConnectionError Network :=
  if network.listening.contains endpoint then
    .error (.bind endpoint .addressInUse)
  else
    .ok { network with listening := endpoint :: network.listening }

/-- Connects to whoever listens at an endpoint. -/
def connect (network : Network) (endpoint : Endpoint) (cancelled : Bool) :
    Except ConnectionError Unit :=
  if cancelled then .error .cancelled
  else if !network.reaches endpoint then .error (.connect endpoint .networkUnreachable)
  else if network.listening.contains endpoint then .ok ()
  else .error (.connect endpoint .connectionRefused)

/-- What opening the control stream ends in: the stream, an error, or nothing
while no client comes. -/
inductive Opening where
  | opened
  | failed (error : ConnectionError)
  | waiting
  deriving DecidableEq, Repr

/-- Opens the control stream of a server while no client arrives. -/
def openAlone (network : Network) (endpoint : Endpoint) (tunnelForward cancelled : Bool) :
    Opening :=
  if tunnelForward then
    match network.listen endpoint with
    | .error error => .failed error
    | .ok _ => if cancelled then .failed .cancelled else .waiting
  else
    match network.connect endpoint cancelled with
    | .error error => .failed error
    | .ok () => .opened

/-- What the two ends of a stream read when each sends its bytes and closes. -/
structure Exchange where
  atServer : List UInt8
  atClient : List UInt8
  deriving DecidableEq, Repr

/-- How a server names the client that it accepted, for its log; none if the
network picks the name. -/
def acceptedPeer : Endpoint → Option String
  | .localSocket _ => some "local socket peer"
  | .tcp _ => none

/-- How a server names the client that it connected to, for its log. -/
def connectedPeer : Endpoint → String
  | .localSocket name => name
  | .tcp address => address.text

/-- A client connects to a server that listens at an endpoint, and both send
their bytes. -/
def exchange (network : Network) (endpoint : Endpoint) (checkByte cancelled : Bool)
    (fromClient fromServer : List UInt8) : Except Opening Exchange :=
  match network.listen endpoint with
  | .error error => .error (.failed error)
  | .ok network =>
      if cancelled then
        .error (.failed .cancelled)
      else
        match network.connect endpoint false with
        | .error _ => .error .waiting
        | .ok () =>
            .ok
              { atServer := fromClient
                atClient := (if checkByte then [0] else []) ++ fromServer }

end Network

end RemoteInput
