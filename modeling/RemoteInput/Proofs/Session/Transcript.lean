import RemoteInput.Proofs.Console.Injections
import RemoteInput.Proofs.Console.Interruption
import RemoteInput.Proofs.Stream.Reading
import RemoteInput.Proofs.Stream.Writing
import RemoteInput.Session

/-!
# The turns of a session

`replay` is a dispatcher on its own: it serves one request line after another,
each at a given moment, and has no stream.  `arrivals` are the lines that a
session takes from its stream, with their moments.

A turn of a session that is watched without end is either of two things, as
`turn_cases` says: `Serving`, one exchange of the dispatcher whose reply is sent
whole, or `Ending`, in one of four ways.
-/

namespace RemoteInput

/-- A request line and the moment at which it arrives. -/
structure Arrival where
  moment : Moment
  line : String

namespace Console

/-- A request line, what serving it comes to, and what happens meanwhile. -/
structure Exchange where
  line : String
  result : Except Interruption Reply
  events : List Event

namespace Exchange

/-- The bytes of the reply; none for a command that was cut short. -/
def response (exchange : Exchange) : List UInt8 :=
  match exchange.result with
  | .ok reply => LineWriter.wire reply.render
  | .error _ => []

/-- What the journal holds of an exchange before the reply is sent. -/
def beginning (exchange : Exchange) : List Event :=
  .received exchange.line :: exchange.events

/-- What the journal holds of an exchange. -/
def record (exchange : Exchange) : List Event :=
  .received exchange.line :: exchange.events ++
    match exchange.result with
    | .ok reply => [.sent reply.render]
    | .error _ => []

theorem response_of_ok {exchange : Exchange} {reply : Reply}
    (result : exchange.result = .ok reply) :
    exchange.response = LineWriter.wire reply.render := by
  unfold response
  rw [result]

theorem response_of_error {exchange : Exchange} {interruption : Interruption}
    (result : exchange.result = .error interruption) :
    exchange.response = [] := by
  unfold response
  rw [result]

theorem record_of_ok {exchange : Exchange} {reply : Reply}
    (result : exchange.result = .ok reply) :
    exchange.record =
      exchange.beginning ++ [.sent reply.render] := by
  unfold record beginning
  rw [result]

end Exchange

variable {σ : Type} [Device σ]

/-- Serves a request line at the moment at which it arrives. -/
def exchange (arrival : Arrival) (console : Console σ) : Exchange × Console σ :=
  let (result, console) := (dispatch arrival.line).run
    { console with toMoment := arrival.moment, journal := #[] }
  ({ line := arrival.line, result, events := console.journal.toList }, console)

theorem line_exchange (arrival : Arrival) (console : Console σ) :
    (exchange arrival console).1.line = arrival.line := by
  rfl

theorem events_exchange (arrival : Arrival) (console : Console σ) :
    (exchange arrival console).1.events =
      (exchange arrival console).2.journal.toList := by
  rfl

/-- Serves request lines one after the other. -/
def replay (console : Console σ) : List Arrival → List Exchange
  | [] => []
  | arrival :: arrivals =>
      (exchange arrival console).1 :: replay (exchange arrival console).2 arrivals

theorem replay_of_moved (console : Console σ) (moment : Moment)
    (journal : Array Event) (arrivals : List Arrival) :
    replay { console with toMoment := moment, journal } arrivals =
      replay console arrivals := by
  cases arrivals with
  | nil => rfl
  | cons arrival arrivals => rfl

theorem line_replay (console : Console σ) (arrivals : List Arrival) :
    (replay console arrivals).map Exchange.line = arrivals.map Arrival.line := by
  induction arrivals generalizing console with
  | nil => rfl
  | cons arrival arrivals ih =>
      rw [replay, List.map_cons, List.map_cons, ih, line_exchange]

/-- A dispatcher serves a line in the same way whatever happened before. -/
theorem dispatch_of_received (arrival : Arrival) (console : Console σ) :
    (dispatch arrival.line).run
        ({ console with toMoment := arrival.moment }.record
          (.received arrival.line)) =
      ((exchange arrival console).1.result,
        following (console.journal.push (.received arrival.line))
          (exchange arrival console).2) := by
  have start : ({ console with toMoment := arrival.moment }.record
      (.received arrival.line)) =
      following (console.journal.push (.received arrival.line))
        { console with toMoment := arrival.moment, journal := #[] } := by
    simp [record, following]
  rw [start, (composed_dispatch arrival.line).run_following]
  rfl

end Console

namespace Session

variable {σ : Type}

theorem stopped_of_unwatched {console : Console σ} (unwatched : console.watch = {}) :
    stopped console = .clean .cancelled := by
  simp [stopped, unwatched]

variable [Device σ]

/-- The request line that a turn serves, if it comes to serve one. -/
def arrival? (channel : LineChannel) (console : Console σ) : Option Arrival :=
  let console := console.catchUp
  if console.isStopped then
    none
  else
    match channel.reader.receive console.deadline console.toMoment with
    | (.line line, _, moment) => some { moment, line }
    | _ => none

/-- The request lines that a session serves, one after the other. -/
def arrivals (channel : LineChannel) (console : Console σ) : List Arrival :=
  match _turned : turn channel console with
  | .ended _ _ _ => (arrival? channel console).toList
  | .served after later =>
      (arrival? channel console).toList ++ arrivals after later
termination_by channel.reader.remaining
decreasing_by exact remaining_turn_lt _turned

/-- What a session has come to after a number of turns. -/
def after : Nat → LineChannel → Console σ → Option (LineChannel × Console σ)
  | 0, channel, console => some (channel, console)
  | count + 1, channel, console =>
      match turn channel console with
      | .ended _ _ _ => none
      | .served channel console => after count channel console

/-! ## What a turn does -/

/-- A turn that serves a request line: it is one exchange of the dispatcher, and
its reply is sent whole. -/
structure Serving (channel : LineChannel) (console : Console σ) (arrival : Arrival)
    (reply : Reply) (after : LineChannel) (later : Console σ) : Prop where
  result : (Console.exchange arrival console).1.result = .ok reply
  sent : channel.writer.send reply.render = (.ok (), after.writer)
  receives : console.Receives [arrival.line] later
  replays : later.shutdown.requested = false → ∃ moment journal,
    later = { (Console.exchange arrival console).2 with
      toMoment := moment, journal } ∧
    journal.toList = console.journal.toList ++
      (Console.exchange arrival console).1.record

/-- What the end of a session says of the answer that ended it. -/
def outcome? : Receipt → Option SessionOutcome
  | .line _ => none
  | .endOfStream => some (.clean .endOfStream)
  | .failed error => some (.fatal error)
  | .overdue => none
  | .silent => some .waiting

/-- In which ways a turn ends a session that is watched without end. -/
inductive Ending (channel : LineChannel) (console : Console σ) :
    List Arrival → SessionOutcome → LineChannel → Console σ → Prop where
  /-- The stream has no further line. -/
  | closed {receipt : Receipt} {outcome : SessionOutcome} {reader : LineReader}
      {moment : Moment}
      (received : ∀ start, channel.reader.receipts start = [receipt])
      (ends : outcome? receipt = some outcome)
      (unrequested : console.shutdown.requested = false) :
      Ending channel console [] outcome { channel with reader }
        { console with toMoment := moment }
  /-- Shutdown was requested before a line was taken. -/
  | halted {reader : LineReader} {last : Console σ}
      (works : console.Works last)
      (requested : last.shutdown.requested = true) :
      Ending channel console [] (.clean .cancelled) { channel with reader } last
  /-- Shutdown was requested while a command was waiting. -/
  | interrupted {arrival : Arrival} {reader : LineReader} {last : Console σ}
      (result : (Console.exchange arrival console).1.result = .error .shutdown)
      (receives : console.Receives [arrival.line] last)
      (requested : last.shutdown.requested = true) :
      Ending channel console [arrival] (.clean .cancelled) { channel with reader } last
  /-- The reply could not be sent. -/
  | unsent {arrival : Arrival} {reply : Reply} {error : ChannelError}
      {reader : LineReader} {writer : LineWriter} {last : Console σ}
      (result : (Console.exchange arrival console).1.result = .ok reply)
      (sent : channel.writer.send reply.render = (.error error, writer))
      (receives : console.Receives [arrival.line] last)
      (journal : last.shutdown.requested = false → last.journal.toList =
        console.journal.toList ++ (Console.exchange arrival console).1.beginning) :
      Ending channel console [arrival] (.fatal error) { reader, writer } last

theorem Ending.receives {channel final : LineChannel} {console last : Console σ}
    {arrivals : List Arrival} {outcome : SessionOutcome}
    (ending : Ending channel console arrivals outcome final last) :
    console.Receives (arrivals.map Arrival.line) last := by
  cases ending with
  | closed received ends unrequested => exact Console.works_move console _
  | halted works requested => exact works
  | interrupted result receives requested => exact receives
  | unsent result sent receives => exact receives

/-- Before the reply is sent, the session has done what the dispatcher does. -/
private theorem takeStep_of_served {console now : Console σ} {arrival : Arrival}
    (served : now = Console.following (console.journal.push (.received arrival.line))
      (Console.exchange arrival console).2)
    (unwatched : now.watch = {})
    (unrequested : now.takeStep.shutdown.requested = false) :
    ∃ moment journal,
      now.takeStep = { (Console.exchange arrival console).2 with
        toMoment := moment, journal } ∧
      journal.toList = console.journal.toList ++
        (Console.exchange arrival console).1.beginning := by
  obtain ⟨moment, stepped⟩ := Console.takeStep_of_unrequested unwatched unrequested
  refine ⟨moment, now.journal, ?_, ?_⟩
  · rw [stepped, served]
    rfl
  · rw [served]
    simp [Console.Exchange.beginning, Console.line_exchange, Console.events_exchange,
      Console.following]

private theorem serving_of_sent {channel : LineChannel} {console now : Console σ}
    {arrival : Arrival} {reply : Reply} {reader : LineReader} {writer : LineWriter}
    (result : (Console.exchange arrival console).1.result = .ok reply)
    (served : now = Console.following (console.journal.push (.received arrival.line))
      (Console.exchange arrival console).2)
    (unwatched : now.watch = {})
    (receives : console.Receives [arrival.line] now)
    (sent : channel.writer.send reply.render = (.ok (), writer)) :
    Serving channel console arrival reply { reader, writer }
      (now.takeStep.record (.sent reply.render)) := by
  constructor
  · exact result
  · exact sent
  · apply (receives.work (Console.works_takeStep now)).work
    exact Console.works_record (by simp) rfl now.takeStep
  · intro unrequested
    obtain ⟨moment, journal, stepped, written⟩ :=
      takeStep_of_served served unwatched unrequested
    rw [stepped]
    refine ⟨moment, journal.push (.sent reply.render), rfl, ?_⟩
    rw [Console.Exchange.record_of_ok result, Array.toList_push, written,
      List.append_assoc]

/-- What serving a line that has arrived comes to. -/
private theorem answer_cases (channel : LineChannel) (reader : LineReader)
    {console now : Console σ} (arrival : Arrival)
    (unwatched : console.watch = {}) (unrequested : console.shutdown.requested = false)
    (arrived : now = ({ console with toMoment := arrival.moment }.record
      (.received arrival.line))) :
    (∃ reply after later,
      answer arrival.line { channel with reader } now = .served after later ∧
        after.reader = reader ∧
        Serving channel console arrival reply after later) ∨
    ∃ outcome final last,
      answer arrival.line { channel with reader } now = .ended outcome final last ∧
        Ending channel console [arrival] outcome final last := by
  have took : console.Receives [arrival.line] now := by
    rw [arrived]
    refine ⟨[] ++ [.received arrival.line],
      (Console.proceeds_move console arrival.moment).trans ?_, rfl⟩
    apply Console.proceeds_record (by simp)
    intro requested
    simp [unrequested] at requested
  have worked := (Console.composed_dispatch arrival.line).works now
  have cut := Console.stopsOn_dispatch arrival.line now
  have served := Console.dispatch_of_received arrival console
  rw [← arrived] at served
  unfold answer
  cases run : (Console.dispatch arrival.line).run now with
  | mk answered later =>
      rw [run] at worked cut served
      rw [Prod.mk.injEq] at served
      have receives := took.work worked
      have endless := receives.unwatched unwatched
      cases answered with
      | error interruption =>
          cases interruption
          right
          have requested := (Console.isStopped_iff endless).mp (cut rfl)
          refine ⟨_, _, _, rfl, ?_⟩
          rw [stopped_of_unwatched endless]
          exact .interrupted served.1.symm receives requested
      | ok reply =>
          have stepped := receives.work (Console.works_takeStep later)
          have watched : ¬ later.takeStep.watch.ended = true := by
            simp [stepped.unwatched unwatched]
          dsimp only
          rw [if_neg watched]
          cases sent : channel.writer.send reply.render with
          | mk sending writer =>
              cases sending with
              | error error =>
                  right
                  refine ⟨_, _, _, rfl, .unsent served.1.symm sent stepped ?_⟩
                  intro unrequested
                  obtain ⟨moment, journal, same, written⟩ :=
                    takeStep_of_served served.2 endless unrequested
                  rw [same]
                  exact written
              | ok =>
                  left
                  exact ⟨reply, _, _, rfl, rfl,
                    serving_of_sent served.1.symm served.2 endless receives sent⟩

private theorem ending_of_receipt {channel : LineChannel} {reader : LineReader}
    {console : Console σ} {receipt : Receipt} {outcome : SessionOutcome}
    {deadline : Option Nat} {moment arrived : Moment}
    (unrequested : console.shutdown.requested = false)
    (received : channel.reader.receive deadline moment = (receipt, reader, arrived))
    (ends : outcome? receipt = some outcome) :
    Ending channel console [] outcome { channel with reader }
      { console with toMoment := arrived } := by
  have other : ∀ text, receipt ≠ .line text := by
    intro text same
    subst same
    cases ends
  have inTime : receipt ≠ .overdue := by
    intro same
    subst same
    cases ends
  exact .closed (LineReader.receipts_of_receive_other other inTime received) ends
    unrequested

/-- A wait for a line that was cut short has let shutdown be requested. -/
private theorem halted_of_overdue {channel : LineChannel} {reader : LineReader}
    {console : Console σ} {moment arrived : Moment}
    (unwatched : console.watch = {})
    (received : channel.reader.receive console.deadline moment =
      (.overdue, reader, arrived)) :
    Ending channel console [] (stopped { console with toMoment := arrived }.expire)
      { channel with reader } { console with toMoment := arrived }.expire := by
  have expired := (Console.works_move console arrived).trans (Console.works_expire _)
  have endless := expired.unwatched unwatched
  have reached : ({ console with toMoment := arrived } :
      Console σ).expire.isStopped = true :=
    Console.isStopped_expire (LineReader.reaches_of_overdue received)
  rw [stopped_of_unwatched endless]
  exact .halted expired ((Console.isStopped_iff endless).mp reached)

/-- A turn serves a request line or ends the session. -/
theorem turn_cases (channel : LineChannel) {console : Console σ}
    (unwatched : console.watch = {}) :
    (∃ arrival reply after later,
      turn channel console = .served after later ∧
        arrival? channel console = some arrival ∧
        (∀ start, ∃ final, channel.reader.receipts start =
          .line arrival.line :: after.reader.receipts final) ∧
        Serving channel console arrival reply after later) ∨
    ∃ outcome final last,
      turn channel console = .ended outcome final last ∧
        Ending channel console (arrival? channel console).toList
          outcome final last := by
  have caughtUp := Console.works_catchUp console
  have endless := caughtUp.unwatched unwatched
  have stopped := Console.isStopped_iff endless
  unfold turn arrival?
  dsimp only
  by_cases isStopped : console.catchUp.isStopped = true
  · rw [if_pos isStopped, if_pos isStopped]
    right
    refine ⟨_, _, _, rfl, ?_⟩
    rw [stopped_of_unwatched endless]
    exact .halted caughtUp (stopped.mp isStopped)
  · rw [if_neg isStopped, if_neg isStopped]
    have unrequested : console.catchUp.shutdown.requested = false := by
      rw [stopped] at isStopped
      simpa using isStopped
    -- Nothing was due, so catching up has only moved the console in time.
    obtain ⟨moment, moved, _⟩ := Console.catchUp_of_not_stopped isStopped
    rw [moved] at unrequested ⊢
    cases received : channel.reader.receive
        ({ console with toMoment := moment } : Console σ).deadline moment with
    | mk receipt read =>
        obtain ⟨reader, arrived⟩ := read
        dsimp only
        cases receipt with
        | line line =>
            rcases answer_cases channel reader ⟨arrived, line⟩ unwatched unrequested
                rfl with
              ⟨reply, after, later, answered, same, serving⟩ |
              ⟨outcome, final, last, answered, ending⟩
            · left
              refine ⟨⟨arrived, line⟩, reply, after, later, answered, rfl, ?_, serving⟩
              rw [same]
              exact LineReader.receipts_of_receive_line received
            · right
              exact ⟨outcome, final, last, answered, ending⟩
        | endOfStream =>
            right
            exact ⟨_, _, _, rfl, ending_of_receipt unrequested received rfl⟩
        | failed error =>
            right
            exact ⟨_, _, _, rfl, ending_of_receipt unrequested received rfl⟩
        | overdue =>
            right
            exact ⟨_, _, _, rfl, halted_of_overdue unwatched received⟩
        | silent =>
            right
            exact ⟨_, _, _, rfl, ending_of_receipt unrequested received rfl⟩

end Session

end RemoteInput
