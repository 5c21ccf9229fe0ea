import RemoteInput.Device.InMemory
import RemoteInput.Proofs.Session.Course

/-!
# A session is a dispatcher with a stream

Over a write side that never fails, and as long as nobody requests shutdown, a
session serves its lines as a dispatcher alone would: `run_refines_replay`.
What it writes is the replies of that dispatcher, one line each, and what it
asks of the device is what the dispatcher asks, between the line and the reply.
-/

namespace RemoteInput

namespace Session

variable {σ : Type} [Device σ]

/-- A session without a request for shutdown, over a write side that never
fails, answers every line and ends with its stream. -/
theorem run_of_uncancelled (id : String) (powerOn : Bool) (channel : LineChannel)
    {console : Console σ} (unwatched : console.watch = {})
    (settled : channel.writer.unsent = []) (reliable : channel.writer.sink.Reliable)
    (uncancelled :
      (run id powerOn channel console).2.2.shutdown.requested = false) :
    ∃ between present receipt outcome reader moment,
      Reached channel (begin id powerOn console).2
        (transcript id powerOn channel console) between present ∧
      Stepwise channel (begin id powerOn console).2
        (transcript id powerOn channel console) present ∧
      present.shutdown.requested = false ∧
      (∀ start, between.reader.receipts start = [receipt]) ∧
      outcome? receipt = some outcome ∧
      run id powerOn channel console =
        (outcome, closed { between with reader } outcome,
          concluded id outcome { present with toMoment := moment }) := by
  obtain ⟨served, between, present, outcome, final, ending, course, quiet, ran, ends⟩ :=
    run_of_unrequested id powerOn channel unwatched uncancelled
  have reached := course.reached settled
  rcases ends with ⟨receipt, all, ⟨reader, rfl⟩, ⟨moment, rfl⟩, received, ends⟩ |
    ⟨arrival, reply, error, _, _, _, sent, _⟩
  · rw [all]
    exact ⟨between, present, receipt, outcome, reader, moment, reached,
      course.stepwise settled, quiet, received, ends, ran⟩
  · have sends := LineWriter.send_eq_ok reached.settled
      (reached.sink ▸ reliable) reply.render
    rw [sent] at sends
    cases sends

/-- What such a session has written in the end. -/
theorem taken_of_uncancelled {id : String} {powerOn : Bool} {channel : LineChannel}
    {console : Console σ} (unwatched : console.watch = {})
    (settled : channel.writer.unsent = []) (reliable : channel.writer.sink.Reliable)
    (uncancelled :
      (run id powerOn channel console).2.2.shutdown.requested = false) :
    (∀ exchange ∈ transcript id powerOn channel console,
      ∃ reply, exchange.result = .ok reply) ∧
    (run id powerOn channel console).2.1.writer.taken.toList =
      channel.writer.taken.toList ++ (transcript id powerOn channel console).flatMap
        Console.Exchange.response := by
  obtain ⟨between, present, receipt, outcome, reader, moment, reached, _, _, _, _,
    ran⟩ := run_of_uncancelled id powerOn channel unwatched settled reliable uncancelled
  have settledLeft : ({ between with reader } : LineChannel).writer.unsent = [] :=
    reached.settled
  refine ⟨reached.results, ?_⟩
  rw [ran]
  dsimp only
  rw [taken_closed settledLeft, reached.taken]

/-- A session serves its lines as a dispatcher would that is given them one by
one at the moments at which they arrive.  The replies go out whole and in order,
and the device is asked for a line only after the replies before it. -/
theorem run_refines_replay (id : String) (powerOn : Bool) (reader : LineReader)
    (sink : Sink) (console : Console σ) (unwatched : console.watch = {})
    (reliable : sink.Reliable)
    (uncancelled : (run id powerOn { reader, writer := .start sink }
      console).2.2.shutdown.requested = false) :
    let channel : LineChannel := { reader, writer := .start sink }
    let opened := (begin id powerOn console).2
    let lines := requests id powerOn channel console
    let exchanges := opened.replay lines
    let ended := run id powerOn channel console
    (∃ receipt, outcome? receipt = some ended.1 ∧
      ∀ moment, reader.receipts moment = lines.map (.line ·.line) ++ [receipt]) ∧
    (∀ exchange ∈ exchanges, ∃ reply, exchange.result = .ok reply) ∧
    ended.2.1.writer.taken.toList =
      exchanges.flatMap Console.Exchange.response ∧
    ended.2.2.journal.toList = opened.journal.toList ++
      exchanges.flatMap Console.Exchange.record ++ endEvents id ended.1 ∧
    ∀ count ≤ exchanges.length, ∃ between present,
      after count channel opened = some (between, present) ∧
      between.writer.unsent = [] ∧
      between.writer.taken.toList =
        (exchanges.take count).flatMap Console.Exchange.response ∧
      present.journal.toList = opened.journal.toList ++
        (exchanges.take count).flatMap Console.Exchange.record := by
  intro channel opened lines exchanges ended
  obtain ⟨between, present, receipt, outcome, left, moment, reached, stepwise,
    unrequested, received, ends, ran⟩ :=
    run_of_uncancelled id powerOn channel unwatched rfl reliable uncancelled
  obtain ⟨results, taken⟩ :=
    taken_of_uncancelled unwatched rfl reliable uncancelled
  have isEnded : ended = (outcome, closed { between with reader := left } outcome,
      concluded id outcome { present with toMoment := moment }) := ran
  refine ⟨⟨receipt, isEnded ▸ ends, ?_⟩, results, taken, ?_, ?_⟩
  · intro start
    obtain ⟨final, same⟩ := reached.received start
    have asLines := congrArg (List.map Receipt.line)
      (Console.line_replay opened lines)
    rw [List.map_map, List.map_map] at asLines
    rw [received] at same
    exact same.trans (congrArg (· ++ [receipt]) asLines)
  · rw [isEnded, journal_concluded]
    dsimp only
    rw [reached.journal unrequested]
    rfl
  · intro count atMost
    obtain ⟨middle, now, counted, part, leads⟩ := stepwise count atMost
    have quiet := leads.unrequested unrequested
    exact ⟨middle, now, counted, part.settled, part.taken, part.journal quiet⟩

theorem run_refines_replay_of_pings :
    let reader := LineReader.start 16
      [.bytes [0x50, 0x49], .bytes [0x4E, 0x47, 0x0A, 0x50], .wait 5,
        .bytes [0x49, 0x4E, 0x47, 0x0D, 0x0A]]
    let sink : Sink :=
      { write := fun _ => .takes 1, flush := fun _ => none, shutdown := fun _ => none }
    let console : Console InMemoryDevice := .start .primary {} {}
    let channel : LineChannel := { reader, writer := .start sink }
    console.watch = {} ∧ sink.Reliable ∧
      (run "a" true channel console).2.2.shutdown.requested = false ∧
      (run "a" true channel console).2.1.writer.taken.toList =
        ((begin "a" true console).2.replay
          (requests "a" true channel console)).flatMap Console.Exchange.response := by
  intro reader sink console channel
  have reliable : sink.Reliable := ⟨fun _ => ⟨0, rfl⟩, fun _ => rfl⟩
  have uncancelled : (run "a" true channel console).2.2.shutdown.requested = false := by
    decide +kernel
  have refines := run_refines_replay "a" true reader sink console rfl reliable uncancelled
  exact ⟨rfl, reliable, uncancelled, refines.2.2.1⟩

end Session

end RemoteInput
