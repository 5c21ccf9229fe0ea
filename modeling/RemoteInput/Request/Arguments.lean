import RemoteInput.Reply
import RemoteInput.Keyboard.Key
import RemoteInput.Number.Literal

/-!
# Arguments of the input commands

Arguments are words.  A missing word is reported before any word is read, then
the fields are read from left to right and the first bad one decides, and a
word too many is reported last.
-/

namespace RemoteInput

namespace Request

/-- Reads a field with its own reason for refusal. -/
def field {α : Type} (read : List Char → Option α) (refusal : Refusal)
    (word : List Char) : Except Refusal α :=
  match read word with
  | some value => .ok value
  | none => .error refusal

/-- Refuses words that no field takes. -/
def noMore : List (List Char) → Except Refusal Unit
  | [] => .ok ()
  | _ :: _ => .error .invalidArguments

/-- Reads a coordinate. -/
def coordinate (word : List Char) : Except Refusal Int32 :=
  field Text.int32? .invalidCoordinates word

/-- The arguments of a tap. -/
structure Tap where
  x : Int32
  y : Int32
  pressure : Binary32
  buttons : Int32
  deriving DecidableEq, Repr

/-- Full pressure, for contacts that give none. -/
def fullPressure : Binary32 := .finite false Binary32.one

/-- No buttons, for contacts that give none. -/
def noButtons : Int32 := 0

/-- Reads the arguments of a tap; pressure and buttons may be left out. -/
def Tap.ofArguments (arguments : String) : Except Refusal Tap :=
  match Text.words arguments.toList with
  | x :: y :: rest => do
      let x ← coordinate x
      let y ← coordinate y
      match rest with
      | [] => .ok { x, y, pressure := fullPressure, buttons := noButtons }
      | pressure :: rest =>
          let pressure ← field Binary32.ofLiteral? .invalidPressure pressure
          match rest with
          | [] => .ok { x, y, pressure, buttons := noButtons }
          | buttons :: rest =>
              let buttons ← field Text.int32? .invalidButtons buttons
              noMore rest
              .ok { x, y, pressure, buttons }
  | _ => .error .invalidArguments

/-- The arguments of a swipe. -/
structure Swipe where
  x1 : Int32
  y1 : Int32
  x2 : Int32
  y2 : Int32
  duration : Int32
  deriving DecidableEq, Repr

/-- Reads the arguments of a swipe: two points and a duration in
milliseconds. -/
def Swipe.ofArguments (arguments : String) : Except Refusal Swipe :=
  match Text.words arguments.toList with
  | x1 :: y1 :: x2 :: y2 :: duration :: rest => do
      let x1 ← coordinate x1
      let y1 ← coordinate y1
      let x2 ← coordinate x2
      let y2 ← coordinate y2
      let duration ← field Text.int32? .invalidArguments duration
      noMore rest
      .ok { x1, y1, x2, y2, duration }
  | _ => .error .invalidArguments

/-- What happens to a key. -/
inductive KeyAction where
  | down
  | up
  | both
  | unrecognized (word : String)
  deriving DecidableEq, Repr

/-- The action a word names, in any ASCII letter case; other words are kept. -/
def KeyAction.ofWord (word : String) : KeyAction :=
  let name := Text.lower word.toList
  if name = "down".toList then .down
  else if name = "up".toList then .up
  else if name = "both".toList then .both
  else .unrecognized word

/-- The arguments of a key command. -/
structure KeyPress where
  code : KeyCode
  action : KeyAction
  deriving DecidableEq, Repr

/-- Reads the arguments of a key command; the action may be left out. -/
def KeyPress.ofArguments (arguments : String) : Except Refusal KeyPress :=
  match Text.words arguments.toList with
  | [] => .error .invalidArguments
  | code :: rest => do
      let code ← field Text.int32? .invalidKeycode code
      match rest with
      | [] => .ok { code := ⟨code⟩, action := .both }
      | action :: rest =>
          noMore rest
          .ok { code := ⟨code⟩, action := .ofWord (String.ofList action) }

end Request

end RemoteInput
