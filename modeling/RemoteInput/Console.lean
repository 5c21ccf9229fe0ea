import RemoteInput.Device
import RemoteInput.Moment
import RemoteInput.Text.Numeral

/-!
# The console

A console is the server's side of one control connection: the display that it
drives, whether that display takes input, its one pointer, and the surroundings
in which it works, namely a device, a clock, a request for shutdown that may
come at any time, and a journal of what happened.

Everything that the server does is an act on the console.  This file holds the
basic acts: asking the device, reading the clock, sleeping and noting.  A sleep
ends early if shutdown was requested before it or is requested during it.

A console may be watched for a limited time only.  When that time is over, the
console stops where it is, as if the world ended there.
-/

namespace RemoteInput

/-- How much a note matters. -/
inductive Severity where
  | debug
  | info
  | warn
  | error
  deriving DecidableEq, Repr

/-- A value attached to a note. -/
inductive NoteValue where
  | number (value : Int)
  | text (value : String)
  deriving DecidableEq, Repr

/-- A line of the log.  Of the notes for debugging only those about received lines are
kept. -/
structure Note where
  severity : Severity
  message : String
  fields : List (String × NoteValue) := []
  deriving DecidableEq, Repr

/-- What happens during a session, in the order in which it happens. -/
inductive Event where
  | called (call : Call) (answer : call.Answer)
  | noted (note : Note)
  /-- A request line arrived. -/
  | received (line : String)
  /-- A reply line went out whole. -/
  | sent (line : String)
  /-- Shutdown was requested. -/
  | shutdown

/-- The request for shutdown. -/
structure Shutdown where
  /-- The instant at which it will be made, if nothing makes it before. -/
  due : Option Nat := none
  /-- It was made. -/
  requested : Bool := false
  deriving DecidableEq, Repr

/-- The time for which a console is watched. -/
structure Watch where
  /-- The instant at which it ends, if it ends. -/
  limit : Option Nat := none
  /-- It has ended. -/
  ended : Bool := false
  deriving DecidableEq, Repr

/-- The server's side of a control connection.  Its moment counts from the
beginning of the session. -/
structure Console (σ : Type) extends Moment where
  display : DisplayId
  /-- Whether the display takes input, as it said when the console was opened. -/
  acceptsInput : Bool
  pointer : Pointer
  device : σ
  /-- How many milliseconds a sleep begun at an instant lasts too long. -/
  oversleep : Nat → Nat
  shutdown : Shutdown
  watch : Watch
  journal : Array Event

/-- Something the server does. -/
abbrev Act (σ : Type) := StateM (Console σ)

namespace Console

variable {σ : Type}

/-- A console before it has asked anything. -/
def start (display : DisplayId) (device : σ) (shutdown : Shutdown) : Console σ :=
  { Moment.start with
    display
    acceptsInput := true
    pointer := .initial
    device
    oversleep := fun _ => 0
    shutdown
    watch := {}
    journal := #[] }

/-- Enters an event into the journal. -/
def record (console : Console σ) (event : Event) : Console σ :=
  { console with journal := console.journal.push event }

/-- Makes the request for shutdown; a second request changes nothing. -/
def requestShutdown (console : Console σ) : Console σ :=
  if console.shutdown.requested then
    console
  else
    { console with shutdown.requested := true }.record .shutdown

/-- The instant at which a wait is cut short. -/
def deadline (console : Console σ) : Option Nat :=
  match console.watch.limit, console.shutdown.due with
  | some limit, some due => some (min limit due)
  | some limit, none => some limit
  | none, due => due

/-- What has become due happens: the watch ends, or else shutdown is requested. -/
def expire (console : Console σ) : Console σ :=
  if console.reaches console.watch.limit then
    { console with watch.ended := true }
  else if console.reaches console.shutdown.due then
    console.requestShutdown
  else
    console

/-- Makes the pause that comes before the next step, if one does. -/
def catchUp (console : Console σ) : Console σ :=
  if console.isSpent then
    { console with toMoment := console.rest }.expire
  else
    console

/-- Takes a step that could have been a wait. -/
def takeStep (console : Console σ) : Console σ :=
  let console := console.catchUp
  { console with toMoment := console.step }

/-- Nothing new is begun: the watch has ended or shutdown was requested. -/
def isStopped (console : Console σ) : Bool :=
  console.watch.ended || console.shutdown.requested

/-- The outcome of a sleep: whether it was slept to its end, and the console
afterwards. -/
def slept (console : Console σ) (duration : Nat) : Bool × Console σ :=
  let console := console.catchUp
  if console.isStopped then
    (false, console)
  else
    match console.wait console.deadline (duration + console.oversleep console.clock) with
    | .ok moment => (true, { console with toMoment := moment })
    | .error (_, moment) => (false, { console with toMoment := moment }.expire)

/-- Lets time pass that nobody waits for; a request for shutdown that is due
meanwhile is made. -/
def advance (console : Console σ) (duration : Nat) : Console σ :=
  let clock := console.clock + duration
  match console.shutdown.due with
  | some due =>
      if !console.shutdown.requested && due < clock then
        { console with clock }.requestShutdown
      else
        { console with clock }
  | none => { console with clock }

/-- Asks the device.  The device is taken out of the console for the call, so
that it is changed in place. -/
def ask [Device σ] (call : Call) : Act σ call.Answer :=
  fun ⟨moment, display, acceptsInput, pointer, device, oversleep, shutdown, watch, journal⟩ =>
    let answered := Device.answer device call
    let console : Console σ :=
      { moment with
        display
        acceptsInput
        pointer
        device := answered.device
        oversleep
        shutdown
        watch
        journal }
    let console := if answered.requestsShutdown then console.requestShutdown else console
    (answered.answer,
      { console with clock := moment.clock + answered.elapsed }.record
        (.called call answered.answer))

/-- Reads the clock. -/
def now : Act σ Nat := fun console => (console.clock, console)

/-- Sleeps; the answer is false if the sleep was cut short. -/
def sleep (duration : Nat) : Act σ Bool := fun console => console.slept duration

/-- Adds a line to the log. -/
def note (severity : Severity) (message : String) (fields : List (String × NoteValue)) :
    Act σ Unit := fun console =>
  ((), console.record (.noted { severity, message, fields }))

/-- Injects an event into the display of the console. -/
def inject [Device σ] (event : Injection) : Act σ (Except DeviceError Unit) := do
  ask (.inject event (← get).display)

/-- The note of a display that takes no input. -/
def inputUnsupported (display : DisplayId) : Note :=
  { severity := .warn
    message := "display does not support input events; input commands will be rejected"
    fields := [("display_id", .number display.number.toNat)] }

/-- Opens the console: asks once whether the display takes input. -/
def begin [Device σ] : Act σ Unit := do
  let console ← get
  let capable ← ask (.inputCapable console.display)
  modify fun console => { console with acceptsInput := capable }
  if !capable then
    modify fun console => console.record (.noted (inputUnsupported console.display))

end Console

/-- An act was cut short by a request for shutdown. -/
inductive Interruption where
  | shutdown
  deriving DecidableEq, Repr

namespace Interruption

/-- The wording of an interrupted command. -/
def message : Interruption → String
  | .shutdown => "command interrupted by shutdown"

end Interruption

end RemoteInput
