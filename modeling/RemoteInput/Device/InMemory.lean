import RemoteInput.Device
import RemoteInput.Keyboard.Layout

/-!
# A device in memory

This device keeps a ledger of what was injected and a clipboard that returns
what was stored.  It counts every injection, refused ones included, and can be
set to refuse all injections after a number of them, to keep no ledger, or to
reject new clipboard texts.
-/

namespace RemoteInput

/-- A device without hardware. -/
structure InMemoryDevice where
  inputCapable : Bool := true
  screenOn : Bool := true
  rejectsClipboard : Bool := false
  /-- How many injections succeed before all later ones fail. -/
  failAfter : Option Nat := none
  /-- Injected events are kept. -/
  keepsEvents : Bool := true
  /-- The clipboard text; none if the clipboard is unavailable. -/
  clipboard : Option String := some ""
  /-- Injections so far, failed ones included. -/
  attempts : Nat := 0
  presses : Array KeyCode := #[]
  keys : Array KeyEvent := #[]
  touches : Array TouchEvent := #[]
  deriving DecidableEq, Repr

namespace InMemoryDevice

/-- The next injection succeeds. -/
def admits (device : InMemoryDevice) : Bool :=
  match device.failAfter with
  | some most => device.attempts < most
  | none => true

/-- Enters an injected event into the ledger. -/
def enter (device : InMemoryDevice) : Injection → InMemoryDevice
  | .press code => { device with presses := device.presses.push code }
  | .key event => { device with keys := device.keys.push event }
  | .touch event => { device with touches := device.touches.push event }

/-- Counts an injection. -/
def count (device : InMemoryDevice) : InMemoryDevice :=
  { device with attempts := device.attempts + 1 }

/-- Counts an injection and, if it is admitted, enters it into the ledger. -/
def inject (device : InMemoryDevice) (event : Injection) :
    Except DeviceError Unit × InMemoryDevice :=
  if device.admits then
    (.ok (), if device.keepsEvents then device.count.enter event else device.count)
  else
    (.error (.injection "mock failure"), device.count)

/-- Stores a clipboard text. -/
def store (device : InMemoryDevice) (text : String) :
    Except DeviceError Unit × InMemoryDevice :=
  if device.rejectsClipboard then
    (.error (.clipboard "mock clipboard is read-only"), device)
  else
    (.ok (), { device with clipboard := some text })

/-- The answer to a call, and the device after it. -/
def handle (device : InMemoryDevice) : (call : Call) → call.Answer × InMemoryDevice
  | .inputCapable _ => (device.inputCapable, device)
  | .screenOn _ => (device.screenOn, device)
  | .inject event _ => device.inject event
  | .keysFor text => (Layout.events? text, device)
  | .clipboard => (device.clipboard, device)
  | .setClipboard text => device.store text

end InMemoryDevice

instance : Device InMemoryDevice where
  answer device call :=
    let (answer, device) := device.handle call
    { answer, device }

end RemoteInput
