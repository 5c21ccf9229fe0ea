import RemoteInput.Text.Numeral

/-!
# Faults of a stream

A byte stream can fail in reading, writing, flushing and shutting down.  A line
channel reports such a failure as its own error, beside the two errors that it
finds in the received bytes.  A failure that the stream itself classes as
invalid data is reported as bytes that are no text.
-/

namespace RemoteInput

/-- The class of a stream failure. -/
inductive FailureKind where
  | connectionReset
  | brokenPipe
  | invalidData
  | unexpectedEof
  | timedOut
  | writeZero
  | other
  deriving DecidableEq, Repr

/-- A failing call on a stream. -/
structure StreamFailure where
  kind : FailureKind
  text : String
  deriving DecidableEq, Repr

namespace StreamFailure

/-- The failure of a write that takes no byte. -/
def noProgress : StreamFailure :=
  { kind := .writeZero, text := "failed to write frame to transport" }

end StreamFailure

/-- Why a line channel cannot go on. -/
inductive ChannelError where
  | stream (failure : StreamFailure)
  | invalidUtf8
  | lineTooLong (limit : Nat)
  deriving DecidableEq, Repr

namespace ChannelError

/-- The channel error of a stream failure. -/
def ofFailure (failure : StreamFailure) : ChannelError :=
  if failure.kind = .invalidData then .invalidUtf8 else .stream failure

/-- The wording of a channel error. -/
def message : ChannelError → String
  | .stream failure => "I/O error on control stream: " ++ failure.text
  | .invalidUtf8 => "received line is not valid UTF-8"
  | .lineTooLong limit => "received line exceeds " ++ Text.decimal limit ++ " bytes"

end ChannelError

end RemoteInput
