import RemoteInput.Device.InMemory
import RemoteInput.Proofs.Session.Course
import RemoteInput.Proofs.Stream.Faults

/-!
# Errors of a channel and of a session

A line channel is used for one operation after the other: a line is asked for, a
line is sent, or the write side is closed.  An error that an operation gives is a
failing call on the stream, or it is about the bytes that were received.  No failing
call goes unreported.  But one whose failure is classed as invalid data is reported
as bytes that are no text, whatever was received, and also when a line is sent.

A session uses its channel in this way, and ends with the error that an operation
gave: `failures_are_reported`.
-/

namespace RemoteInput

/-- The error of an answer. -/
def Receipt.error? : Receipt → Option ChannelError
  | .failed error => some error
  | .line _ | .endOfStream | .overdue | .silent => none

/-- The error of an outcome. -/
def SessionOutcome.error? : SessionOutcome → Option ChannelError
  | .fatal error => some error
  | .clean _ | .waiting => none

namespace LineWriter

/-- The error of a result. -/
def error? : Except ChannelError Unit → Option ChannelError
  | .error error => some error
  | .ok () => none

end LineWriter

namespace LineChannel

/-- A channel over a stream that was not used yet. -/
def start (limit : Nat) (source : List ReadEvent) (sink : Sink) : LineChannel :=
  { reader := .start limit source, writer := .start sink }

/-- What a channel is asked to do. -/
inductive Operation where
  | receive (deadline : Option Nat) (moment : Moment)
  | send (line : String)
  | close

/-- The operation writes. -/
def Operation.writes : Operation → Bool
  | .receive _ _ => false
  | .send _ | .close => true

/-- An operation that was carried out: the channel before and after, and the error
that it gave. -/
structure Use where
  operation : Operation
  before : LineChannel
  error? : Option ChannelError
  after : LineChannel

/-- Carries out an operation. -/
def use (channel : LineChannel) (operation : Operation) : Use :=
  match operation with
  | .receive deadline moment =>
      let received := channel.reader.receive deadline moment
      { operation, before := channel, error? := received.1.error?,
        after := { channel with reader := received.2.1 } }
  | .send line =>
      let sent := channel.writer.send line
      { operation, before := channel, error? := LineWriter.error? sent.1,
        after := { channel with writer := sent.2 } }
  | .close =>
      let closed := channel.writer.close
      { operation, before := channel, error? := LineWriter.error? closed.1,
        after := { channel with writer := closed.2 } }

/-- Carries out operations one after the other, whatever becomes of each. -/
def uses (channel : LineChannel) : List Operation → List Use
  | [] => []
  | operation :: rest => channel.use operation :: (channel.use operation).after.uses rest

/-- The channel after operations were carried out, whatever became of each. -/
def useAll (channel : LineChannel) (operations : List Operation) : LineChannel :=
  operations.foldl (fun channel operation => (channel.use operation).after) channel

theorem uses_append (channel : LineChannel) (earlier later : List Operation) :
    channel.uses (earlier ++ later) =
      channel.uses earlier ++ (channel.useAll earlier).uses later := by
  induction earlier generalizing channel with
  | nil => rfl
  | cons operation rest induction =>
      exact congrArg (_ :: ·) (induction (channel.use operation).after)

theorem useAll_append (channel : LineChannel) (earlier later : List Operation) :
    channel.useAll (earlier ++ later) = (channel.useAll earlier).useAll later :=
  List.foldl_append

/-! ## One operation -/

namespace Use

/-- How the calls on the stream failed that an operation made. -/
def faults (use : Use) : List StreamFailure :=
  use.before.reader.faults use.after.reader ++ use.before.writer.faults use.after.writer

/-- The last line that was received is no text. -/
def TakesNoText (source : List ReadEvent) (use : Use) : Prop :=
  ∃ found line, ReadEvent.Finds source use.after.reader.source found ∧
    TakesLine found line use.after.reader.decoder.buffer ∧
    Utf8.decode? (dropCarriageReturn line) = none

/-- A line that was received is longer than a limit. -/
def TakesTooMuch (limit : Nat) (source : List ReadEvent) (use : Use) : Prop :=
  ∃ found, ReadEvent.Finds source use.after.reader.source found ∧ Exceeds limit found

/-- What the failing calls on the stream, and the received bytes, have to do with
the error of an operation, if a failing call is reported in a given way. -/
inductive Explains (report : StreamFailure → ChannelError) (limit : Nat)
    (source : List ReadEvent) (use : Use) :
    List StreamFailure → Option ChannelError → Prop where
  | succeeded : Explains report limit source use [] none
  | failed (failure : StreamFailure) :
      Explains report limit source use [failure] (some (report failure))
  | noText (receives : use.operation.writes = false) (takes : use.TakesNoText source) :
      Explains report limit source use [] (some .invalidUtf8)
  | tooLong (receives : use.operation.writes = false)
      (takes : use.TakesTooMuch limit source) :
      Explains report limit source use [] (some (.lineTooLong limit))

/-- An operation has no error but that of its one failing call on the stream, or one
about the received bytes. -/
def Explained (report : StreamFailure → ChannelError) (limit : Nat)
    (source : List ReadEvent) (use : Use) : Prop :=
  Explains report limit source use use.faults use.error?

/-- The error of an operation is of its own class unless a call on the stream fails
with invalid data. -/
theorem explained_stream_iff {limit : Nat} {source : List ReadEvent} {use : Use}
    (explained : use.Explained .ofFailure limit source) :
    use.Explained .stream limit source ↔
      ∀ failure ∈ use.faults, failure.kind ≠ .invalidData := by
  unfold Explained at explained ⊢
  generalize use.faults = faults at explained ⊢
  generalize use.error? = error at explained ⊢
  cases explained with
  | succeeded => exact ⟨nofun, fun _ => .succeeded⟩
  | failed failure =>
      constructor
      · intro truthful other member isInvalid
        cases List.mem_singleton.mp member
        rw [ChannelError.ofFailure, if_pos isInvalid] at truthful
        cases truthful
      · intro valid
        have isValid := valid failure (List.mem_singleton_self failure)
        rw [ChannelError.ofFailure, if_neg isValid]
        exact .failed failure
  | noText receives takes => exact ⟨nofun, fun _ => .noText receives takes⟩
  | tooLong receives takes => exact ⟨nofun, fun _ => .tooLong receives takes⟩

end Use

section

variable {limit : Nat} {source : List ReadEvent} {found : List (Option UInt8)}
  {channel : LineChannel}

private theorem explained_written {operation : Operation} {writer : LineWriter}
    {result : Except StreamFailure Unit}
    (calls : LineWriter.Calls channel.writer writer (LineWriter.failuresOf result)) :
    Use.Explained .ofFailure limit source
      { operation, before := channel
        error? := LineWriter.error? (result.mapError .ofFailure)
        after := { channel with writer } } := by
  unfold Use.Explained Use.faults
  dsimp only
  rw [LineReader.faults_self, calls.faults]
  cases result with
  | error failure => exact .failed failure
  | ok => exact .succeeded

private theorem explained_received {deadline : Option Nat} {start moment : Moment}
    {receipt : Receipt} {reader : LineReader}
    (follows : channel.reader.Follows limit source found)
    (received : channel.reader.receive deadline start = (receipt, reader, moment)) :
    (∃ more, reader.Follows limit source more) ∧
    Use.Explained .ofFailure limit source
      { operation := .receive deadline start, before := channel, error? := receipt.error?,
        after := { channel with reader } } := by
  obtain ⟨more, failures, verdict, followsOn, failing⟩ :=
    LineReader.reports_receive follows received
  refine ⟨⟨found ++ more, followsOn⟩, ?_⟩
  unfold Use.Explained Use.faults
  dsimp only
  rw [LineReader.faults_eq failing, LineWriter.faults_self, List.append_nil]
  cases verdict with
  | line takes isText => exact .succeeded
  | notText takes noText =>
      apply Use.Explains.noText rfl
      exact ⟨found ++ more, _, followsOn.finds, takes, noText⟩
  | tooLong exceeds =>
      apply Use.Explains.tooLong rfl
      exact ⟨found ++ more, followsOn.finds, exceeds⟩
  | failing failure => exact .failed failure
  | endOfStream => exact .succeeded
  | overdue => exact .succeeded
  | silent => exact .succeeded

/-- The error of one operation is explained, and the reader goes on in the stream. -/
theorem explained_use (follows : channel.reader.Follows limit source found)
    (operation : Operation) :
    (∃ more, (channel.use operation).after.reader.Follows limit source more) ∧
      (channel.use operation).Explained .ofFailure limit source := by
  cases operation with
  | receive deadline moment => exact explained_received follows rfl
  | send line =>
      obtain ⟨result, reported, calls⟩ := LineWriter.calls_send channel.writer line
      refine ⟨⟨found, follows⟩, ?_⟩
      unfold use
      dsimp only
      rw [reported]
      exact explained_written calls
  | close =>
      obtain ⟨result, reported, calls⟩ := LineWriter.calls_close channel.writer
      refine ⟨⟨found, follows⟩, ?_⟩
      unfold use
      dsimp only
      rw [reported]
      exact explained_written calls

theorem explained_uses (follows : channel.reader.Follows limit source found)
    (operations : List Operation) :
    ∀ use ∈ channel.uses operations, use.Explained .ofFailure limit source := by
  induction operations generalizing channel found with
  | nil =>
      intro use member
      cases member
  | cons operation rest induction =>
      obtain ⟨⟨more, followsOn⟩, explained⟩ := explained_use follows operation
      intro use member
      rcases List.mem_cons.mp member with isFirst | isLater
      · rw [isFirst]
        exact explained
      · exact induction followsOn use isLater

end

end LineChannel

/-! ## Sessions -/

namespace Session

open LineChannel (Operation Use)

/-- What a session does with its channel while it serves lines.  At most one
operation gives an error. -/
structure Does (channel : LineChannel) (operations : List Operation)
    (error? : Option ChannelError) (final : LineChannel) : Prop where
  serves : .close ∉ operations
  errors : (channel.uses operations).filterMap Use.error? = error?.toList
  leaves : channel.useAll operations = final

theorem Does.nil (channel : LineChannel) : Does channel [] none channel :=
  ⟨List.not_mem_nil, rfl, rfl⟩

theorem Does.trans {channel middle final : LineChannel} {operations more : List Operation}
    {error? : Option ChannelError} (succeeds : Does channel operations none middle)
    (does : Does middle more error? final) :
    Does channel (operations ++ more) error? final := by
  constructor
  · rw [List.mem_append]
    rintro (member | member)
    · exact succeeds.serves member
    · exact does.serves member
  · rw [LineChannel.uses_append, List.filterMap_append, succeeds.errors, succeeds.leaves,
      does.errors]
    rfl
  · rw [LineChannel.useAll_append, succeeds.leaves, does.leaves]

theorem Does.single (channel : LineChannel) {operation : Operation}
    (serves : operation ≠ .close) :
    Does channel [operation] (channel.use operation).error?
      (channel.use operation).after := by
  constructor
  · intro member
    exact serves (List.mem_singleton.mp member).symm
  · rw [LineChannel.uses, LineChannel.uses]
    cases error : (channel.use operation).error? with
    | none => exact List.filterMap_cons_none error
    | some found => exact List.filterMap_cons_some error
  · rfl

private theorem does_receive {channel : LineChannel} {deadline : Option Nat}
    {start moment : Moment} {receipt : Receipt} {reader : LineReader}
    (received : channel.reader.receive deadline start = (receipt, reader, moment)) :
    Does channel [.receive deadline start] receipt.error? { channel with reader } := by
  have does := @Does.single channel (.receive deadline start) nofun
  unfold LineChannel.use at does
  dsimp only at does
  rw [received] at does
  exact does

private theorem does_send {channel : LineChannel} {line : String}
    {result : Except ChannelError Unit} {writer : LineWriter}
    (sent : channel.writer.send line = (result, writer)) :
    Does channel [.send line] (LineWriter.error? result) { channel with writer } := by
  have does := @Does.single channel (.send line) nofun
  unfold LineChannel.use at does
  dsimp only at does
  rw [sent] at does
  exact does

variable {σ : Type}

theorem error?_stopped (console : Console σ) : (stopped console).error? = none := by
  unfold stopped
  split
  · rfl
  · rfl

/-- What a turn does with the channel. -/
def Turn.Does (channel : LineChannel) (operations : List Operation) : Turn σ → Prop
  | .served after _ => Session.Does channel operations none after
  | .ended outcome final _ => Session.Does channel operations outcome.error? final

theorem Turn.Does.trans {channel middle : LineChannel} {operations more : List Operation}
    {turn : Turn σ} (succeeds : Session.Does channel operations none middle)
    (does : turn.Does middle more) : turn.Does channel (operations ++ more) := by
  cases turn with
  | served after console => exact Session.Does.trans succeeds does
  | ended outcome final console => exact Session.Does.trans succeeds does

private theorem Turn.does_stopped (channel : LineChannel) (console last : Console σ) :
    (Turn.ended (stopped console) channel last).Does channel [] := by
  have does := Session.Does.nil channel
  rw [← error?_stopped console] at does
  exact does

variable [Device σ]

private theorem does_answer (line : String) (channel : LineChannel) (console : Console σ) :
    ∃ operations, (answer line channel console).Does channel operations := by
  unfold answer
  cases (Console.dispatch line).run console with
  | mk result last =>
      cases result with
      | error interruption =>
          cases interruption
          exact ⟨[], Turn.does_stopped channel last last⟩
      | ok reply =>
          dsimp only
          split
          · exact ⟨[], .nil channel⟩
          · cases sent : channel.writer.send reply.render with
            | mk result writer =>
                cases result with
                | error error => exact ⟨[.send reply.render], does_send sent⟩
                | ok => exact ⟨[.send reply.render], does_send sent⟩

private theorem does_turn (channel : LineChannel) (console : Console σ) :
    ∃ operations, (turn channel console).Does channel operations := by
  unfold turn
  dsimp only
  split
  · exact ⟨[], Turn.does_stopped channel console.catchUp console.catchUp⟩
  · cases received : channel.reader.receive console.catchUp.deadline
        console.catchUp.toMoment with
    | mk receipt rest =>
        obtain ⟨reader, moment⟩ := rest
        have does := does_receive received
        cases receipt with
        | line line =>
            obtain ⟨operations, answers⟩ := does_answer line { channel with reader }
              (Console.record { console.catchUp with toMoment := moment } (.received line))
            exact ⟨_, Turn.Does.trans does answers⟩
        | endOfStream => exact ⟨_, does⟩
        | failed error => exact ⟨_, does⟩
        | overdue =>
            exact ⟨_, Turn.Does.trans does (Turn.does_stopped _ _ _)⟩
        | silent => exact ⟨_, does⟩

private theorem does_serve (channel : LineChannel) (console : Console σ) :
    ∃ operations, Does channel operations (serve channel console).1.error?
      (serve channel console).2.1 := by
  fun_induction serve channel console with
  | case1 channel console outcome final last turned =>
      obtain ⟨operations, does⟩ := does_turn channel console
      rw [turned] at does
      exact ⟨operations, does⟩
  | case2 channel console middle later turned induction =>
      obtain ⟨operations, does⟩ := does_turn channel console
      obtain ⟨more, goesOn⟩ := induction
      rw [turned] at does
      exact ⟨operations ++ more, Does.trans does goesOn⟩

omit [Device σ] in
private theorem finish_cases (id : String) (outcome : SessionOutcome)
    (channel : LineChannel) (console : Console σ) :
    let ended := finish id outcome channel console
    ended.1.error? = outcome.error? ∧ ended.2.1 = closed channel ended.1 := by
  cases outcome with
  | clean reason =>
      intro ended
      have isEnded : ended = _ := finish_clean id reason channel console
      dsimp only at isEnded
      split at isEnded
      · rw [isEnded]
        exact ⟨rfl, rfl⟩
      · rw [isEnded]
        exact ⟨rfl, rfl⟩
  | fatal error => exact ⟨rfl, rfl⟩
  | waiting => exact ⟨rfl, rfl⟩

/-- A session carries out operations on its channel, and what it ends with is their
error.  After an expected end it closes the channel, whatever becomes of that. -/
theorem does_run (id : String) (powerOn : Bool) (channel : LineChannel)
    (console : Console σ) :
    let ended := run id powerOn channel console
    ∃ operations between, Does channel operations ended.1.error? between ∧
      ended.2.1 = closed between ended.1 := by
  unfold run
  dsimp only
  cases begin id powerOn console with
  | mk awake opened =>
      cases awake with
      | true =>
          obtain ⟨operations, does⟩ := does_serve channel opened
          obtain ⟨same, leaves⟩ := finish_cases id (serve channel opened).1
            (serve channel opened).2.1 (serve channel opened).2.2
          rw [← same] at does
          exact ⟨operations, _, does, leaves⟩
      | false =>
          obtain ⟨same, leaves⟩ := finish_cases id (stopped opened) channel opened
          rw [error?_stopped] at same
          refine ⟨[], channel, ?_, leaves⟩
          dsimp only
          rw [if_neg Bool.false_ne_true, same]
          exact .nil channel

/-- However a channel is used, an error is that of one failing call on the stream,
or it is about the received bytes, and no failing call goes unreported.  All errors
are of their own class if no failure is classed as invalid data, and only then.  A
session uses its channel in this way, and what it ends with is the error that it was
given. -/
theorem failures_are_reported (limit : Nat) (source : List ReadEvent) (sink : Sink) :
    let channel := LineChannel.start limit source sink
    (∀ operations, ∀ use ∈ channel.uses operations,
      use.Explained .ofFailure limit source ∧
      (use.Explained .stream limit source ↔
        ∀ failure ∈ use.faults, failure.kind ≠ .invalidData)) ∧
    ∀ (id : String) (powerOn : Bool) (console : Console σ),
      let ended := run id powerOn channel console
      ∃ operations, .close ∉ operations ∧
        (channel.uses operations).filterMap Use.error? = ended.1.error?.toList ∧
        ended.2.1 = closed (channel.useAll operations) ended.1 := by
  intro channel
  constructor
  · intro operations use member
    have follows := LineReader.follows_start limit source
    have explained := @LineChannel.explained_uses limit source [] channel follows
      operations use member
    exact ⟨explained, Use.explained_stream_iff explained⟩
  · intro id powerOn console ended
    obtain ⟨operations, between, does, leaves⟩ := does_run id powerOn channel console
    refine ⟨operations, does.serves, does.errors, ?_⟩
    rw [does.leaves]
    exact leaves

theorem failures_are_reported_of_reset_connection :
    let failure : StreamFailure := { kind := .connectionReset, text := "gone" }
    let source : List ReadEvent := [.bytes (LineWriter.wire "PING"), .failure failure]
    let first := (LineChannel.start 64 source .perfect).use (.receive none ⟨0, 0⟩)
    let second := first.after.use (.receive none ⟨0, 0⟩)
    first.error? = none ∧ second.error? = some (.stream failure) ∧
      second.Explained .stream 64 source := by
  intro failure source first second
  obtain ⟨explained, _⟩ := @failures_are_reported InMemoryDevice _ 64 source .perfect
  have isLater : second ∈
      (LineChannel.start 64 source .perfect).uses
        [.receive none ⟨0, 0⟩, .receive none ⟨0, 0⟩] :=
    List.mem_cons_of_mem _ List.mem_cons_self
  have faults : second.faults = [failure] := by decide +kernel
  obtain ⟨_, truthful⟩ := explained _ second isLater
  refine ⟨by decide +kernel, by decide +kernel, truthful.mpr ?_⟩
  intro other member
  rw [faults] at member
  rw [List.mem_singleton.mp member]
  nofun

/-- A failing read, and a failing flush after a line was sent, that the stream
classes as invalid data. -/
theorem invalidData_is_reported_as_no_text :
    let failure : StreamFailure := { kind := .invalidData, text := "scripted InvalidData" }
    let source : List ReadEvent := [.failure failure]
    let channel := LineChannel.start 1024 source
      { Sink.perfect with flush := fun _ => some failure }
    let received := channel.use (.receive none ⟨0, 0⟩)
    let sent := channel.use (.send "OK")
    received.faults = [failure] ∧ received.error? = some .invalidUtf8 ∧
    sent.faults = [failure] ∧ sent.error? = some .invalidUtf8 ∧
    ¬ received.Explained .stream 1024 source ∧ ¬ sent.Explained .stream 1024 source := by
  intro failure source channel received sent
  have readFault : received.faults = [failure] := by decide +kernel
  have readError : received.error? = some .invalidUtf8 := by decide +kernel
  have sentFault : sent.faults = [failure] := by decide +kernel
  have sentError : sent.error? = some .invalidUtf8 := by decide +kernel
  refine ⟨readFault, readError, sentFault, sentError, ?_, ?_⟩
  · intro truthful
    unfold Use.Explained at truthful
    rw [readFault, readError] at truthful
    cases truthful
  · intro truthful
    unfold Use.Explained at truthful
    rw [sentFault, sentError] at truthful
    cases truthful

end Session

end RemoteInput
