import RemoteInput.Device.InMemory
import RemoteInput.Text.Numeral

/-!
# A rehearsed device

A rehearsal puts a script in front of a device in memory.  The script numbers
the injections from zero, names those that fail without reaching the device and
the one at which shutdown is requested, and may know other key events for some
texts than the keyboard of the device does.
-/

namespace RemoteInput

/-- A device in memory with a script. -/
structure Rehearsal where
  device : InMemoryDevice := {}
  /-- The injections that fail. -/
  failAt : List Nat := []
  /-- The injection whose arrival requests shutdown. -/
  shutdownAt : Option Nat := none
  /-- Key events for particular texts. -/
  keymap : List (String × Option (List KeyEvent)) := []
  /-- Injections so far. -/
  injections : Nat := 0
  deriving DecidableEq, Repr

namespace Rehearsal

/-- Lets the device handle a call. -/
def forward (rehearsal : Rehearsal) (call : Call) : call.Answer × Rehearsal :=
  let { device, failAt, shutdownAt, keymap, injections } := rehearsal
  let (answer, device) := device.handle call
  (answer, { device, failAt, shutdownAt, keymap, injections })

/-- The script fails the next injection. -/
def failsNext (rehearsal : Rehearsal) : Bool :=
  rehearsal.failAt.contains rehearsal.injections

/-- Counts an injection. -/
def count (rehearsal : Rehearsal) : Rehearsal :=
  { rehearsal with injections := rehearsal.injections + 1 }

/-- Handles the next injection: the script fails it, or the device has it. -/
def inject (rehearsal : Rehearsal) (event : Injection) (display : DisplayId) :
    Except DeviceError Unit × Rehearsal :=
  if rehearsal.failsNext then
    let reason := "scripted failure " ++ Text.decimal rehearsal.injections
    (.error (.injection reason), rehearsal.count)
  else
    rehearsal.count.forward (.inject event display)

/-- The answer to a call, and the rehearsal after it. -/
def handle (rehearsal : Rehearsal) : (call : Call) → call.Answer × Rehearsal
  | .inject event display => rehearsal.inject event display
  | .keysFor text =>
      match rehearsal.keymap.lookup (String.ofList text) with
      | some events => (events, rehearsal)
      | none => rehearsal.forward (.keysFor text)
  | call => rehearsal.forward call

/-- Shutdown is requested when a call arrives. -/
def requestsShutdown (rehearsal : Rehearsal) : Call → Bool
  | .inject _ _ => rehearsal.shutdownAt == some rehearsal.injections
  | _ => false

end Rehearsal

instance : Device Rehearsal where
  answer rehearsal call :=
    let requestsShutdown := rehearsal.requestsShutdown call
    let (answer, device) := rehearsal.handle call
    { answer, device, requestsShutdown }

end RemoteInput
