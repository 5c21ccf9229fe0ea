import RemoteInput.Device
import RemoteInput.Settings.SessionId
import RemoteInput.Settings.SocketAddress
import RemoteInput.Settings.Verbosity

/-!
# Settings

Everything that a server can be told: its session id, its display, where its
control stream is, and how it behaves.
-/

namespace RemoteInput

/-- The display with a number in a text. -/
def DisplayId.ofText (text : String) : Except Text.NumeralError DisplayId :=
  (Text.unsigned 10 (Nat.pow 2 32) (Text.trim text.toList)).map fun number =>
    ⟨UInt32.ofNat number⟩

/-- Where the control stream is. -/
inductive Endpoint where
  | localSocket (name : String)
  | tcp (address : SocketAddress)
  deriving DecidableEq, Repr

namespace Endpoint

/-- The local socket of a server with a session id, or without one. -/
def ofSession (id : Option SessionId) : Endpoint :=
  .localSocket (socketName id)

/-- The written form of an endpoint. -/
def text : Endpoint → String
  | .localSocket name => "local:" ++ name
  | .tcp address => "tcp:" ++ address.text

end Endpoint

/-- The settings of a server. -/
structure Settings where
  sessionId : Option SessionId
  display : DisplayId
  /-- Wake the primary display before the first request. -/
  powerOn : Bool
  /-- Serve a control session at all. -/
  control : Bool
  endpoint : Endpoint
  /-- Listen for the control stream instead of connecting to it. -/
  tunnelForward : Bool
  /-- Send one zero byte to a client that was accepted. -/
  sendDummyByte : Bool
  verbosity : Verbosity
  /-- The most bytes that a request line may have. -/
  maxLineLength : Nat
  deriving DecidableEq, Repr

namespace Settings

/-- The settings of a server that is told nothing. -/
def standard : Settings :=
  { sessionId := none
    display := .primary
    powerOn := true
    control := true
    endpoint := .ofSession none
    tunnelForward := false
    sendDummyByte := true
    verbosity := .info
    maxLineLength := 8 * 1024 * 1024 }

end Settings

end RemoteInput
