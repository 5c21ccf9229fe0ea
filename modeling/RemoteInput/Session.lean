import RemoteInput.Console.Dispatch
import RemoteInput.Stream.LineReader
import RemoteInput.Stream.LineWriter

/-!
# Sessions

A session serves one control stream.  It may wake the display first; then it
takes a request line, serves it, sends the reply, and only then takes the next
line.  It ends when the stream ends, when shutdown is requested, or when the
stream fails.  A request for shutdown is seen before a line is taken and while
one is waited for; a command that it cuts short gets no reply.  After an
expected end the write side of the stream is flushed, and shut down unless that
fails.

Waiting for the write side is a step of the session, also if nobody else holds
it, and so a long run of requests without a wait makes pauses.
-/

namespace RemoteInput

/-- The two sides of a control stream. -/
structure LineChannel where
  reader : LineReader
  writer : LineWriter

/-- Why a session ended as expected. -/
inductive CloseReason where
  | endOfStream
  | cancelled
  deriving DecidableEq, Repr

namespace CloseReason

/-- The wording of an expected end. -/
def text : CloseReason → String
  | .endOfStream => "end of stream"
  | .cancelled => "cancelled"

end CloseReason

/-- How a session ends. -/
inductive SessionOutcome where
  | clean (reason : CloseReason)
  | fatal (error : ChannelError)
  /-- It does not end in the time for which it is watched. -/
  | waiting
  deriving DecidableEq, Repr

namespace Session

variable {σ : Type} [Device σ]

/-- What comes of one turn of a session. -/
inductive Turn (σ : Type) where
  /-- A request was served and its reply was sent. -/
  | served (channel : LineChannel) (console : Console σ)
  | ended (outcome : SessionOutcome) (channel : LineChannel) (console : Console σ)

/-- The outcome of a session that was stopped. -/
def stopped (console : Console σ) : SessionOutcome :=
  if console.watch.ended then .waiting else .clean .cancelled

/-- Serves a request line that was received. -/
def answer (line : String) (channel : LineChannel) (console : Console σ) : Turn σ :=
  match (Console.dispatch line).run console with
  | (.error .shutdown, console) => .ended (stopped console) channel console
  | (.ok reply, console) =>
      let console := console.takeStep
      if console.watch.ended then
        .ended .waiting channel console
      else
        match channel.writer.send reply.render with
        | (.error error, writer) => .ended (.fatal error) { channel with writer } console
        | (.ok (), writer) =>
            .served { channel with writer } (console.record (.sent reply.render))

/-- Takes one request line and serves it. -/
def turn (channel : LineChannel) (console : Console σ) : Turn σ :=
  let console := console.catchUp
  if console.isStopped then
    .ended (stopped console) channel console
  else
    match channel.reader.receive console.deadline console.toMoment with
    | (.line line, reader, moment) =>
        let console := { console with toMoment := moment }
        answer line { channel with reader } (console.record (.received line))
    | (.endOfStream, reader, moment) =>
        let console := { console with toMoment := moment }
        .ended (.clean .endOfStream) { channel with reader } console
    | (.failed error, reader, moment) =>
        let console := { console with toMoment := moment }
        .ended (.fatal error) { channel with reader } console
    | (.overdue, reader, moment) =>
        let console := { console with toMoment := moment }.expire
        .ended (stopped console) { channel with reader } console
    | (.silent, reader, moment) =>
        let console := { console with toMoment := moment }
        .ended .waiting { channel with reader } console

/-- Serving a line reads nothing. -/
theorem reader_answer {line : String} {channel after : LineChannel}
    {console final : Console σ}
    (served : answer line channel console = .served after final) :
    after.reader = channel.reader := by
  unfold answer at served
  split at served
  · simp at served
  · dsimp only at served
    split at served
    · simp at served
    · split at served
      · simp at served
      · simp only [Turn.served.injEq] at served
        obtain ⟨rfl, -⟩ := served
        rfl

/-- A turn that serves a request uses up at least one byte. -/
theorem remaining_turn_lt {channel after : LineChannel} {console final : Console σ}
    (served : turn channel console = .served after final) :
    after.reader.remaining < channel.reader.remaining := by
  unfold turn at served
  dsimp only at served
  split at served
  · simp at served
  · split at served
    · next received =>
      rw [reader_answer served]
      exact LineReader.remaining_receive_lt received
    all_goals simp at served

/-- Serves request lines until the session ends. -/
def serve (channel : LineChannel) (console : Console σ) :
    SessionOutcome × LineChannel × Console σ :=
  match _turned : turn channel console with
  | .ended outcome channel console => (outcome, channel, console)
  | .served channel console => serve channel console
termination_by channel.reader.remaining
decreasing_by exact remaining_turn_lt _turned

/-- Notes that the session starts, and wakes the display if asked to.  What is
due when it starts has happened before.  The answer is false if the waking was
cut short. -/
def begin (id : String) (powerOn : Bool) (console : Console σ) : Bool × Console σ :=
  let started : Note := { severity := .info, message := "session " ++ id ++ ": started" }
  match (Console.wake powerOn).run (console.expire.record (.noted started)) with
  | (.error .shutdown, console) => (false, console)
  | (.ok false, console) => (true, console)
  | (.ok true, console) =>
      let note : Note :=
        { severity := .info, message := "session " ++ id ++ ": screen powered on" }
      (true, console.record (.noted note))

/-- The note of how a session ended; none if it did not end. -/
def endNote (id : String) : SessionOutcome → Option Note
  | .clean reason =>
      some { severity := .info, message := "session " ++ id ++ ": closed (" ++ reason.text ++ ")" }
  | .fatal error =>
      some { severity := .error, message := "session " ++ id ++ ": terminated: " ++ error.message }
  | .waiting => none

/-- Notes how the session ended.  After an expected end the write side is waited
for, which may outlast the watch, and closed; a failure of that changes nothing. -/
def finish (id : String) (outcome : SessionOutcome) (channel : LineChannel)
    (console : Console σ) : SessionOutcome × LineChannel × Console σ :=
  let console :=
    match endNote id outcome with
    | some note => console.record (.noted note)
    | none => console
  match outcome with
  | .clean _ =>
      if console.isSpent && console.reaches console.watch.limit then
        (.waiting, channel, console)
      else
        (outcome, { channel with writer := channel.writer.close.2 }, console)
  | _ => (outcome, channel, console)

/-- Runs a session from its start to its end.  The console must have been
opened. -/
def run (id : String) (powerOn : Bool) (channel : LineChannel) (console : Console σ) :
    SessionOutcome × LineChannel × Console σ :=
  let (awake, console) := begin id powerOn console
  let (outcome, channel, console) :=
    if awake then serve channel console else (stopped console, channel, console)
  finish id outcome channel console

end Session

end RemoteInput
