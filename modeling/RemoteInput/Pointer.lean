import RemoteInput.Number.Binary32

/-!
# The pointer

Every gesture is made by one finger.  The pointer keeps where the finger was
last put and with which pressure; each touch event carries a copy of it.
-/

namespace RemoteInput

/-- What touches the screen. -/
inductive Tool where
  | finger
  deriving DecidableEq, Repr

/-- Where an event claims to come from. -/
inductive Source where
  | touchscreen
  deriving DecidableEq, Repr

/-- The phase of a gesture. -/
inductive TouchAction where
  | down
  | move
  | up
  deriving DecidableEq, Repr

/-- The one pointer of a session. -/
structure Pointer where
  id : Int32
  tool : Tool
  x : Binary32
  y : Binary32
  pressure : Binary32
  orientation : Binary32
  size : Binary32
  deriving DecidableEq, Repr

namespace Pointer

/-- The pointer before its first gesture. -/
def initial : Pointer :=
  { id := 0
    tool := .finger
    x := .zero
    y := .zero
    pressure := .zero
    orientation := .zero
    size := .zero }

/-- Puts the pointer at a point with a pressure. -/
def moveTo (pointer : Pointer) (x y : Int32) (pressure : Binary32) : Pointer :=
  { pointer with x := .ofInt x.toInt, y := .ofInt y.toInt, pressure }

end Pointer

/-- One touch event.  The instants are milliseconds on the session clock, and
all events of a gesture share the instant at which the finger came down. -/
structure TouchEvent where
  downTime : Nat
  eventTime : Nat
  action : TouchAction
  pointer : Pointer
  buttons : Int32
  deviceId : Int32
  source : Source
  deriving DecidableEq, Repr

namespace TouchEvent

/-- A touchscreen event of the pointer as it is. -/
def touch (downTime eventTime : Nat) (action : TouchAction) (pointer : Pointer)
    (buttons : Int32) : TouchEvent :=
  { downTime, eventTime, action, pointer, buttons, deviceId := 0, source := .touchscreen }

end TouchEvent

end RemoteInput
