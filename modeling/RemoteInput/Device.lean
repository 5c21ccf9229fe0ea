import RemoteInput.Keyboard.Key
import RemoteInput.Pointer

/-!
# Devices

A device answers calls: it says whether a display takes input and whether its
screen is on, it injects key strokes, key events and touch events, it tells
which key events type a text, and it keeps a clipboard.  A device is any state
with an answer to every call; an answer may take time, and answering may be the
moment at which the server is asked to shut down.
-/

namespace RemoteInput

/-- The number of a display. -/
structure DisplayId where
  number : UInt32
  deriving DecidableEq, Repr

namespace DisplayId

/-- The display built into the device. -/
def primary : DisplayId := ⟨0⟩

end DisplayId

/-- Why a device refuses a call. -/
inductive DeviceError where
  | injection (reason : String)
  | clipboard (reason : String)
  deriving DecidableEq, Repr

namespace DeviceError

/-- The wording of a refused call. -/
def message : DeviceError → String
  | .injection reason => "event injection failed: " ++ reason
  | .clipboard reason => "clipboard update failed: " ++ reason

end DeviceError

/-- What can be injected: a key pressed and released as one stroke, one key
event, or one touch event. -/
inductive Injection where
  | press (code : KeyCode)
  | key (event : KeyEvent)
  | touch (event : TouchEvent)
  deriving DecidableEq, Repr

/-- What the server asks of a device. -/
inductive Call where
  | inputCapable (display : DisplayId)
  | screenOn (display : DisplayId)
  | inject (event : Injection) (display : DisplayId)
  /-- Asks for the key events that type a text on the keyboard of the device. -/
  | keysFor (text : List Char)
  | clipboard
  | setClipboard (text : String)
  deriving DecidableEq, Repr

namespace Call

/-- The answers to a call. -/
abbrev Answer : Call → Type
  | inputCapable _ | screenOn _ => Bool
  | inject _ _ | setClipboard _ => Except DeviceError Unit
  | keysFor _ => Option (List KeyEvent)
  | clipboard => Option String

end Call

/-- An answer, and what it left behind. -/
structure Answered (σ : Type) (call : Call) where
  answer : call.Answer
  device : σ
  /-- The milliseconds that the call took. -/
  elapsed : Nat := 0
  /-- Shutdown was requested when the call arrived. -/
  requestsShutdown : Bool := false

/-- A state that answers every call is a device. -/
class Device (σ : Type) where
  answer : σ → (call : Call) → Answered σ call

end RemoteInput
