import RemoteInput.Number.Binary32

/-!
# Swipe paths

A swipe of positive duration is cut into steps of at least sixteen
milliseconds; the finger goes down at the start, passes one waypoint at the end
of each step but the last, and comes up at the finish.  A waypoint is computed
in single precision: the fraction of the way, times the distance, rounded to
the nearest pixel with halves up.
-/

namespace RemoteInput

/-- A point of the display, in pixels. -/
structure Point where
  x : Int32
  y : Int32
  deriving DecidableEq, Repr

/-- A point that a swipe passes, and when, in milliseconds after its start. -/
structure Waypoint where
  index : Nat
  point : Point
  offset : Nat
  deriving DecidableEq, Repr

/-- The shape and timing of a swipe. -/
structure SwipePath where
  start : Point
  finish : Point
  /-- The number of steps; the last one ends at the finish. -/
  steps : Nat
  /-- The length of a step, in milliseconds. -/
  spacing : Nat
  deriving DecidableEq, Repr

namespace SwipePath

/-- The least length of a step, if there are several, in milliseconds. -/
def leastSpacing : Nat := 16

/-- The path of a swipe that lasts a number of milliseconds; a negative
duration counts as none. -/
def plan (start finish : Point) (duration : Int32) : SwipePath :=
  let length := duration.toInt.toNat
  let steps := if length = 0 then 0 else max 1 (length / leastSpacing)
  { start, finish, steps, spacing := length / steps }

/-- The number of waypoints between start and finish. -/
def moveCount (path : SwipePath) : Nat :=
  path.steps - 1

/-- The sum of two coordinates, clamped to thirty-two bits. -/
def clampedSum (a b : Int32) : Int32 :=
  let sum := a.toInt + b.toInt
  if sum < Int32.minValue.toInt then Int32.minValue
  else if Int32.maxValue.toInt < sum then Int32.maxValue
  else Int32.ofInt sum

/-- The coordinate at a fraction of the way between two coordinates. -/
def interpolate (first last : Int32) (progress : Binary32) : Int32 :=
  let distance := Binary32.ofInt (last.toInt - first.toInt) * progress
  clampedSum first (distance + Binary32.half).floorInt32

/-- The fraction of the way after a number of steps. -/
def progress (path : SwipePath) (index : Nat) : Binary32 :=
  Binary32.ofInt index / Binary32.ofInt (max 1 path.steps : Nat)

/-- The waypoint after a number of steps. -/
def waypoint (path : SwipePath) (index : Nat) : Waypoint :=
  let progress := path.progress index
  { index
    point :=
      { x := interpolate path.start.x path.finish.x progress
        y := interpolate path.start.y path.finish.y progress }
    offset := path.spacing * index }

/-- The waypoints in order. -/
def waypoints (path : SwipePath) : List Waypoint :=
  (List.range' 1 path.moveCount).map path.waypoint

end SwipePath

end RemoteInput
