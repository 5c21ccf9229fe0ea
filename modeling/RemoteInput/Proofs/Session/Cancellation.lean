import RemoteInput.Device.InMemory
import RemoteInput.Proofs.Session.Course

/-!
# Sessions that are cancelled

Shutdown may be requested before a session starts, while the display wakes up,
while a line is waited for, when the device is called, or in a pause of a swipe.
Wherever that is, no request line is served any more, a command that is cut
short has no reply, every other line that was served has its whole reply, and
then the write side is closed: `run_of_cancelled`.  Only a reply that cannot be
sent makes an exception.

To close the write side is to flush it once more, and to shut it down by one
call if that succeeds: `ClosedAfter`.  A failure of either call leaves it open,
and the session ends well all the same.
-/

namespace RemoteInput

namespace Session

variable {σ : Type}

/-- The final state of a write side that was closed after some replies: nothing
was left to send, each reply had been flushed, and none of this had shut it down. -/
structure ClosedAfter (sink : Sink) (replies : Nat) (before final : LineWriter) :
    Prop where
  closes : final = before.close.2
  settled : before.unsent = []
  taken : final.taken = before.taken
  flushes : before.flushes = replies
  unshut : before.shutdowns = 0
  shutdowns : final.shutdowns = if sink.flush replies = none then 1 else 0
  closed : final.closed = true ↔ sink.flush replies = none ∧ sink.shutdown 0 = none

/-- What was answered before a session ends well is what its write side has taken. -/
private theorem closedAfter_of_reached {reader : LineReader} {sink : Sink}
    {between : LineChannel} {console present : Console σ}
    {served : List Console.Exchange}
    (reached : Reached { reader, writer := .start sink } console served between
      present) :
    between.writer.close.2.taken.toList =
        served.flatMap Console.Exchange.response ∧
      ClosedAfter sink served.length between.writer between.writer.close.2 := by
  obtain ⟨taken, shutdowns, closed⟩ := LineWriter.close_of_settled reached.settled
  have flushes : between.writer.flushes = served.length :=
    reached.flushes.trans (Nat.zero_add _)
  have unshut : between.writer.shutdowns = 0 := reached.shutdowns
  have unclosed : between.writer.closed = false := reached.closed
  have sameSink : between.writer.sink = sink := reached.sink
  rw [flushes, unshut, sameSink] at closed
  rw [flushes, unshut, sameSink, Nat.zero_add] at shutdowns
  refine ⟨?_, rfl, reached.settled, taken, flushes, unshut, shutdowns, ?_⟩
  · rw [taken, reached.taken]
    rfl
  · simpa [unclosed] using closed

/-- Of lines that all have a reply all are counted. -/
private theorem countP_answered {served : List Console.Exchange}
    (results : ∀ exchange ∈ served, ∃ reply, exchange.result = .ok reply) :
    served.countP (fun exchange => exchange.result.isOk) = served.length := by
  apply List.countP_eq_length.mpr
  intro exchange member
  obtain ⟨reply, result⟩ := results exchange member
  rw [result]
  rfl

variable [Device σ]

/-- What the journal of a session says of a request for shutdown: no line is
received after it. -/
theorem receives_of_run (id : String) (powerOn : Bool) (channel : LineChannel)
    {console : Console σ} (unwatched : console.watch = {})
    (settled : channel.writer.unsent = []) :
    console.Receives ((requests id powerOn channel console).map Arrival.line)
      (run id powerOn channel console).2.2 := by
  obtain ⟨exchanges, between, present, last, outcome, final, ending, reached, _,
    replayed, ends, ran⟩ := run_course id powerOn channel unwatched settled
  have opened := (works_begin id powerOn console).1
  have served := Console.Receives.trans opened
    (reached.receives.trans ends.receives)
  have course := served.work (injects_concluded id outcome ending).works
  have lines := congrArg (List.map Console.Exchange.line) replayed
  unfold transcript at lines
  rw [Console.line_replay, List.map_append, Console.line_replay] at lines
  rw [ran, lines]
  exact course

/-- Once shutdown is requested, a session serves no further line.  It sends the
whole replies of the lines that it served, but none to a command that was cut
short, and then closes the write side: it flushes it, and shuts it down by one
call unless that flush fails.  Only if a reply cannot be sent the session fails,
and that reply may be cut short. -/
theorem run_of_cancelled (id : String) (powerOn : Bool) (reader : LineReader)
    (sink : Sink) (console : Console σ) (unwatched : console.watch = {})
    (cancelled : (run id powerOn { reader, writer := .start sink }
      console).2.2.shutdown.requested = true) :
    let channel : LineChannel := { reader, writer := .start sink }
    let lines := requests id powerOn channel console
    let exchanges := (begin id powerOn console).2.replay lines
    let replies := exchanges.countP fun exchange => exchange.result.isOk
    let ended := run id powerOn channel console
    (∃ events, ended.2.2.journal.toList = console.journal.toList ++ events ∧
      (console.shutdown.requested = true ∨ .shutdown ∈ events) ∧
      receivedLines events = lines.map Arrival.line ∧
      (console.shutdown.requested = true → lines = []) ∧
      events.Pairwise fun first second =>
        first = .shutdown → second.received? = none) ∧
    ((ended.1 = .clean .cancelled ∧
      ended.2.1.writer.taken.toList =
        exchanges.flatMap Console.Exchange.response ∧
      ∃ before, ClosedAfter sink replies before ended.2.1.writer) ∨
    ∃ error earlier last reply part,
      ended.1 = .fatal error ∧ exchanges = earlier ++ [last] ∧
      last.result = .ok reply ∧ part <+: LineWriter.wire reply.render ∧
      ended.2.1.writer.taken.toList =
        earlier.flatMap Console.Exchange.response ++ part ∧
      ended.2.1.writer.shutdowns = 0 ∧
      ∃ writer : LineWriter, writer.unsent = [] ∧
        writer.send reply.render = (.error error, ended.2.1.writer)) := by
  intro channel lines exchanges replies ended
  constructor
  · obtain ⟨events, proceeds, received⟩ :=
      receives_of_run id powerOn channel unwatched rfl
    refine ⟨events, proceeds.journal, proceeds.requested.mp cancelled, received, ?_,
      proceeds.prompt⟩
    intro requested
    have nothing : receivedLines events = [] :=
      List.filterMap_eq_nil_iff.mpr (proceeds.refuses requested)
    rw [nothing] at received
    exact List.map_eq_nil_iff.mp received.symm
  · obtain ⟨served, between, present, last, outcome, final, ending, whole, _,
      replayed, ends, ran⟩ := run_course id powerOn channel unwatched rfl
    have isEnded : ended = (outcome, closed final outcome,
      concluded id outcome ending) := ran
    have requested : ending.shutdown.requested = true := by
      rw [← shutdown_concluded id outcome ending]
      rw [ran] at cancelled
      exact cancelled
    have all : exchanges = served ++ present.replay last := replayed
    have answered := countP_answered whole.results
    have counted : replies = (served ++ present.replay last).countP fun exchange =>
        exchange.result.isOk :=
      congrArg (List.countP fun exchange => exchange.result.isOk) all
    rw [List.countP_append, answered] at counted
    rw [isEnded, all, counted]
    cases ends with
    | closed received ends unrequested =>
        rw [unrequested] at requested
        cases requested
    | halted works _ =>
        left
        obtain ⟨taken, closes⟩ := closedAfter_of_reached whole
        refine ⟨rfl, ?_, between.writer, closes⟩
        rw [Console.replay, List.append_nil]
        exact taken
    | @interrupted arrival _ _ result receives _ =>
        left
        obtain ⟨taken, closes⟩ := closedAfter_of_reached whole
        have silent : (present.replay [arrival]).flatMap
            Console.Exchange.response = [] := by
          rw [Console.replay, Console.replay, List.flatMap_singleton,
            Console.Exchange.response_of_error result]
        have uncounted : (present.replay [arrival]).countP
            (fun exchange => exchange.result.isOk) = 0 := by
          rw [Console.replay, Console.replay, List.countP_singleton, result]
          rfl
        refine ⟨rfl, ?_, between.writer, ?_⟩
        · rw [List.flatMap_append, silent, List.append_nil]
          exact taken
        · rw [uncounted, Nat.add_zero]
          exact closes
    | @unsent arrival reply error _ writer _ result sent receives =>
        right
        obtain ⟨part, initial, taken⟩ :=
          LineWriter.taken_of_send_error whole.settled sent
        have advances := LineWriter.advances_send whole.settled reply.render
        rw [sent] at advances
        refine ⟨error, served, (Console.exchange arrival present).1, reply, part, rfl,
          rfl, result, initial, ?_, ?_, between.writer, whole.settled, sent⟩
        · rw [whole.taken] at taken
          exact taken
        · exact advances.shutdowns.trans whole.shutdowns

theorem run_of_cancelled_of_swipe :
    let reader := LineReader.start 64
      [.bytes (LineWriter.wire "PING"),
        .bytes (LineWriter.wire "SWIPE 0 0 100 0 500")]
    let console : Console InMemoryDevice := .start .primary {} { due := some 300 }
    let channel : LineChannel := { reader, writer := .start .perfect }
    let ended := run "a" false channel console
    console.watch = {} ∧ ended.2.2.shutdown.requested = true ∧
      ended.1 = .clean .cancelled ∧
      ended.2.1.writer.taken.toList = LineWriter.wire "OK PONG" ∧
      ended.2.1.writer.shutdowns = 1 ∧ ended.2.1.writer.closed = true := by
  intro reader console channel ended
  have cancelled : ended.2.2.shutdown.requested = true := by decide +kernel
  rcases (run_of_cancelled "a" false reader .perfect console rfl cancelled).2 with
    ⟨outcome, taken, before, closes⟩ | ⟨error, _, _, _, _, fatal, _⟩
  · have reply : ((begin "a" false console).2.replay
        (requests "a" false channel console)).flatMap Console.Exchange.response =
          LineWriter.wire "OK PONG" := by
      decide +kernel
    exact ⟨rfl, cancelled, outcome, taken.trans reply, closes.shutdowns,
      closes.closed.mpr ⟨rfl, rfl⟩⟩
  · have clean : ended.1 = .clean .cancelled := by decide +kernel
    have contradiction := clean.symm.trans fatal
    cases contradiction

/-- A session may end well although its write side is not shut down: there is no
call for that if the flush before it fails, and the call may fail itself. -/
theorem cancelled_sessions_may_stay_open :
    let gone : StreamFailure := { kind := .brokenPipe, text := "gone" }
    let unflushed : Sink :=
      { Sink.perfect with flush := fun call => if call = 1 then some gone else none }
    let unshut : Sink := { Sink.perfect with shutdown := fun _ => some gone }
    let reader := LineReader.start 64 [.bytes (LineWriter.wire "PING"), .wait 1000]
    let console : Console InMemoryDevice := .start .primary {} { due := some 500 }
    let ended := fun sink : Sink =>
      run "a" false { reader, writer := .start sink } console
    console.watch = {} ∧
      (∀ sink ∈ [unflushed, unshut],
        (ended sink).2.2.shutdown.requested = true ∧
        (ended sink).1 = .clean .cancelled ∧
        (ended sink).2.1.writer.taken.toList = LineWriter.wire "OK PONG" ∧
        (ended sink).2.1.writer.closed = false) ∧
      (ended unflushed).2.1.writer.shutdowns = 0 ∧
      (ended unshut).2.1.writer.shutdowns = 1 := by
  intro gone unflushed unshut reader console ended
  exact ⟨rfl, by decide +kernel, by decide +kernel, by decide +kernel⟩

end Session

end RemoteInput
