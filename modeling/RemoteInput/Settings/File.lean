import RemoteInput.Settings
import RemoteInput.Toml.Document

/-!
# The settings file

A settings file is a TOML document with three tables; every key may be left
out, and unknown keys are ignored.  A table may also be written as an array of
its values, in the order in which its keys are listed here.  A value of the
wrong type, or out of the range of its key, makes the whole file malformed.  The
session id is kept as it was written, because it is judged only when the
settings are put together.
-/

namespace RemoteInput

/-- What a settings file says, key by key. -/
structure FileSettings where
  sessionId : Option String := none
  display : Option DisplayId := none
  powerOn : Option Bool := none
  control : Option Bool := none
  maxLineLength : Option Nat := none
  tunnelForward : Option Bool := none
  sendDummyByte : Option Bool := none
  tcp : Option SocketAddress := none
  verbosity : Option Verbosity := none
  deriving DecidableEq, Repr

namespace FileSettings

open Toml (Value)

/-- The values of the keys of a table.  A date has no key of any table. -/
def fields? (keys : List String) : Value → Option (List (Option Value))
  | .table entries => some (keys.map fun key => entries.lookup key)
  | .array items => some ((List.range keys.length).map fun position => items[position]?)
  | .date => some (keys.map fun _ => none)
  | _ => none

/-- Reads a value that may be left out. -/
def optional {α : Type} (read : Value → Option α) : Option Value → Option (Option α)
  | none => some none
  | some value => (read value).map some

/-- A text. -/
def text? : Value → Option String
  | .text content => some content
  | _ => none

/-- A truth value. -/
def truth? : Value → Option Bool
  | .boolean value => some value
  | _ => none

/-- A whole number below a bound. -/
def natural? (bound : Nat) : Value → Option Nat
  | .integer value => if 0 ≤ value && value < bound then some value.toNat else none
  | _ => none

/-- The number of a display. -/
def display? (value : Value) : Option DisplayId :=
  (natural? (Nat.pow 2 32) value).map fun number => ⟨UInt32.ofNat number⟩

/-- The keys of the table about the server. -/
def serverKeys : List String :=
  ["scid", "display_id", "power_on", "control", "max_line_length"]

/-- The keys of the table about the control stream. -/
def transportKeys : List String :=
  ["tunnel_forward", "send_dummy_byte", "tcp"]

/-- The keys of the table about logging. -/
def loggingKeys : List String :=
  ["level"]

/-- Reads the table about the server. -/
def readServer (settings : FileSettings) (table : Value) : Option FileSettings := do
  match ← fields? serverKeys table with
  | [sessionId, display, powerOn, control, maxLineLength] =>
      some
        { settings with
          sessionId := ← optional text? sessionId
          display := ← optional display? display
          powerOn := ← optional truth? powerOn
          control := ← optional truth? control
          maxLineLength := ← optional (natural? (Nat.pow 2 64)) maxLineLength }
  | _ => none

/-- Reads the table about the control stream. -/
def readTransport (settings : FileSettings) (table : Value) : Option FileSettings := do
  match ← fields? transportKeys table with
  | [tunnelForward, sendDummyByte, tcp] =>
      some
        { settings with
          tunnelForward := ← optional truth? tunnelForward
          sendDummyByte := ← optional truth? sendDummyByte
          tcp := ← optional (fun value => (text? value).bind SocketAddress.ofText?) tcp }
  | _ => none

/-- Reads the table about logging. -/
def readLogging (settings : FileSettings) (table : Value) : Option FileSettings := do
  match ← fields? loggingKeys table with
  | [level] =>
      some
        { settings with
          verbosity := ← optional (fun value => (text? value).bind Verbosity.ofText?) level }
  | _ => none

/-- Reads a table, if the document has it. -/
def readTable? (read : FileSettings → Value → Option FileSettings) (settings : FileSettings) :
    Option Value → Option FileSettings
  | none => some settings
  | some table => read settings table

/-- What a document says; nothing if it is malformed. -/
def parse? (document : String) : Option FileSettings := do
  match ← fields? ["server", "transport", "logging"] (← Toml.parse? document) with
  | [server, transport, logging] =>
      let settings ← readTable? readServer {} server
      let settings ← readTable? readTransport settings transport
      readTable? readLogging settings logging
  | _ => none

end FileSettings

end RemoteInput
