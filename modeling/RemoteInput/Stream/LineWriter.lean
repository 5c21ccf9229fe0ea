import RemoteInput.Stream.Error
import RemoteInput.Text.Utf8

/-!
# Writing lines to a stream

A line is sent with a line feed after it and flushed before the next one is
accepted.  A write may take only some of the bytes it is offered, so the writer
keeps the bytes that are still unsent and offers them until all are taken.
Bytes that stay unsent after a failure go out first with the next line.
-/

namespace RemoteInput

/-- What a write call does. -/
inductive WriteAnswer where
  /-- It takes at most this many of the bytes it is offered. -/
  | takes (most : Nat)
  | fails (failure : StreamFailure)
  deriving DecidableEq, Repr

/-- How the write side of a stream answers its calls.  Calls of each kind are
numbered from zero. -/
structure Sink where
  write : Nat → WriteAnswer
  flush : Nat → Option StreamFailure
  shutdown : Nat → Option StreamFailure

namespace Sink

/-- A write side that takes everything. -/
def perfect : Sink :=
  { write := fun _ => .takes (Nat.pow 2 64)
    flush := fun _ => none
    shutdown := fun _ => none }

end Sink

/-- The writing side of a line channel. -/
structure LineWriter where
  sink : Sink
  /-- Calls made so far, by kind. -/
  writes : Nat
  flushes : Nat
  shutdowns : Nat
  /-- Bytes of sent lines that the stream has not taken yet. -/
  unsent : List UInt8
  /-- Bytes that the stream has taken. -/
  taken : Array UInt8
  /-- The write side was shut down. -/
  closed : Bool

namespace LineWriter

/-- A writer that has sent nothing. -/
def start (sink : Sink) : LineWriter :=
  { sink
    writes := 0
    flushes := 0
    shutdowns := 0
    unsent := []
    taken := #[]
    closed := false }

/-- The number of unsent bytes from which a further line must wait for them. -/
def fullAt : Nat := 8192

/-- Offers the unsent bytes until all are taken or a call fails.  A call that
takes no byte counts as a failure. -/
def drain (writer : LineWriter) : Except StreamFailure Unit × LineWriter :=
  if writer.unsent.isEmpty then
    (.ok (), writer)
  else
    match writer.sink.write writer.writes with
    | .fails failure => (.error failure, { writer with writes := writer.writes + 1 })
    | .takes 0 => (.error .noProgress, { writer with writes := writer.writes + 1 })
    | .takes (most + 1) =>
        drain
          { writer with
            writes := writer.writes + 1
            unsent := writer.unsent.drop (most + 1)
            taken := writer.taken ++ writer.unsent.take (most + 1) }
termination_by writer.unsent.length
decreasing_by
  simp only [List.isEmpty_iff] at *
  have := List.length_pos_iff.mpr ‹_›
  simp only [List.length_drop]
  omega

/-- Drains and flushes. -/
def flush (writer : LineWriter) : Except StreamFailure Unit × LineWriter :=
  match writer.drain with
  | (.error failure, writer) => (.error failure, writer)
  | (.ok (), writer) =>
      let flushed := { writer with flushes := writer.flushes + 1 }
      match writer.sink.flush writer.flushes with
      | some failure => (.error failure, flushed)
      | none => (.ok (), flushed)

/-- Makes room for a line: too many unsent bytes must go out first. -/
def makeRoom (writer : LineWriter) : Except StreamFailure Unit × LineWriter :=
  if fullAt ≤ writer.unsent.length then writer.flush else (.ok (), writer)

/-- The bytes of a line on the wire. -/
def wire (line : String) : List UInt8 :=
  Utf8.encode line.toList ++ [0x0A]

/-- Sends one line. -/
def send (writer : LineWriter) (line : String) : Except ChannelError Unit × LineWriter :=
  match writer.makeRoom with
  | (.error failure, writer) => (.error (.ofFailure failure), writer)
  | (.ok (), writer) =>
      let (result, writer) :=
        flush { writer with unsent := writer.unsent ++ wire line }
      (result.mapError .ofFailure, writer)

/-- Flushes and shuts the write side down. -/
def close (writer : LineWriter) : Except ChannelError Unit × LineWriter :=
  match writer.flush with
  | (.error failure, writer) => (.error (.ofFailure failure), writer)
  | (.ok (), writer) =>
      let called := { writer with shutdowns := writer.shutdowns + 1 }
      match writer.sink.shutdown writer.shutdowns with
      | some failure => (.error (.ofFailure failure), called)
      | none => (.ok (), { called with closed := true })

end LineWriter

end RemoteInput
