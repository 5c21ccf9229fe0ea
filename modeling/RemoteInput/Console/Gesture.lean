import RemoteInput.Console
import RemoteInput.Request.Arguments
import RemoteInput.SwipePath
import RemoteInput.Text.Quoted

/-!
# Gestures and keys

A tap puts the finger down and lifts it again, also if putting it down failed.
A swipe puts it down, moves it along its path at the pace of the path, and
lifts it; the first event that fails ends the swipe, and so does a request for
shutdown during a pause.  A key goes down, up, or both.
-/

namespace RemoteInput

/-- Why a gesture or key was not carried out. -/
inductive GestureError where
  | refused (error : DeviceError)
  | unknownAction (word : String)
  | interrupted
  deriving DecidableEq, Repr

namespace GestureError

/-- The wording of a gesture that was not carried out. -/
def message : GestureError → String
  | .refused error => error.message
  | .unknownAction word => "unrecognised key action " ++ Text.quoted word
  | .interrupted => "gesture interrupted by shutdown"

end GestureError

/-- An act that may end early. -/
abbrev GestureAct (σ : Type) := ExceptT GestureError (Act σ)

namespace Console

variable {σ : Type} [Device σ]

/-- Puts the pointer of the console at a point. -/
def point (x y : Int32) (pressure : Binary32) : Act σ Unit :=
  modify fun console => { console with pointer := console.pointer.moveTo x y pressure }

/-- Injects a touch event of the pointer as it is. -/
def touch (downTime eventTime : Nat) (action : TouchAction) (buttons : Int32) :
    Act σ (Except DeviceError Unit) := do
  let event := TouchEvent.touch downTime eventTime action (← get).pointer buttons
  inject (.touch event)

/-- Notes that one half of a tap failed. -/
def noteTapFailure (half : String) (tap : Request.Tap) :
    Except DeviceError Unit → Act σ Unit
  | .ok () => pure ()
  | .error error =>
      note .warn ("tap " ++ half ++ " failed: " ++ error.message)
        [("x", .number tap.x.toInt), ("y", .number tap.y.toInt)]

/-- The first failure of two results. -/
def firstFailure (first second : Except DeviceError Unit) : Except GestureError Unit :=
  match first, second with
  | .error error, _ | .ok (), .error error => .error (.refused error)
  | .ok (), .ok () => .ok ()

/-- Taps at a point. -/
def tap (tap : Request.Tap) : Act σ (Except GestureError Unit) := do
  point tap.x tap.y tap.pressure
  let downTime ← now
  let down ← touch downTime downTime .down tap.buttons
  noteTapFailure "DOWN" tap down
  let upTime ← now
  let up ← touch downTime upTime .up tap.buttons
  noteTapFailure "UP" tap up
  return firstFailure down up

/-- Puts the pointer at a point with full pressure and injects a touch event of
it, which must succeed. -/
def contact (downTime eventTime : Nat) (action : TouchAction) (place : Point) :
    GestureAct σ Unit := ExceptT.mk do
  point place.x place.y Request.fullPressure
  return (← touch downTime eventTime action Request.noButtons).mapError .refused

/-- Sleeps to the end, or ends the gesture. -/
def pause (duration : Nat) : GestureAct σ Unit := ExceptT.mk do
  return if ← sleep duration then .ok () else .error .interrupted

/-- Moves along a number of waypoints, counted from an index on, and pauses
after each. -/
def follow (path : SwipePath) (downTime : Nat) : Nat → Nat → GestureAct σ Unit
  | 0, _ => pure ()
  | left + 1, index => do
      let waypoint := path.waypoint index
      contact downTime (downTime + waypoint.offset) .move waypoint.point
      pause path.spacing
      follow path downTime left (index + 1)

/-- Swipes along a path. -/
def trace (path : SwipePath) : GestureAct σ Unit := do
  let downTime ← ExceptT.lift now
  contact downTime downTime .down path.start
  follow path downTime path.moveCount 1
  let upTime ← ExceptT.lift now
  contact downTime upTime .up path.finish

/-- Swipes from one point to another. -/
def swipe (swipe : Request.Swipe) : Act σ (Except GestureError Unit) :=
  (trace (.plan ⟨swipe.x1, swipe.y1⟩ ⟨swipe.x2, swipe.y2⟩ swipe.duration)).run

/-- Presses and releases a key. -/
def press (code : KeyCode) : Act σ (Except DeviceError Unit) :=
  inject (.press code)

/-- Carries out a key command. -/
def pressKey (key : Request.KeyPress) : Act σ (Except GestureError Unit) := do
  match key.action with
  | .down => return (← inject (.key (.down key.code))).mapError .refused
  | .up => return (← inject (.key (.up key.code))).mapError .refused
  | .both => return (← press key.code).mapError .refused
  | .unrecognized word => return .error (.unknownAction word)

end Console

end RemoteInput
