import RemoteInput.Proofs.Session.Transcript

/-!
# The course of a session

A session that is watched without end is a number of turns that each serve one
request line, and one turn that ends it: `serve_course`.  `Course` is the turns
that serve a line, and `Reached` says what the session has come to after them.
The exchanges are those of a dispatcher that is given the same lines at the same
moments.
-/

namespace RemoteInput

namespace Session

variable {σ : Type}

/-! ## After the last turn -/

/-- How the journal notes the end of a session. -/
def endEvents (id : String) (outcome : SessionOutcome) : List Event :=
  ((endNote id outcome).map Event.noted).toList

/-- The channel that a session leaves behind: after an expected end its write
side was closed. -/
def closed (channel : LineChannel) : SessionOutcome → LineChannel
  | .clean _ => { channel with writer := channel.writer.close.2 }
  | .fatal _ | .waiting => channel

theorem taken_closed {channel : LineChannel} (settled : channel.writer.unsent = [])
    (outcome : SessionOutcome) :
    (closed channel outcome).writer.taken = channel.writer.taken := by
  cases outcome with
  | clean reason => exact (LineWriter.close_of_settled settled).1
  | fatal error => rfl
  | waiting => rfl

/-- The console that a session leaves behind: its end was noted. -/
def concluded (id : String) (outcome : SessionOutcome) (console : Console σ) :
    Console σ :=
  match endNote id outcome with
  | some note => console.record (.noted note)
  | none => console

theorem finish_clean (id : String) (reason : CloseReason) (channel : LineChannel)
    (console : Console σ) :
    finish id (.clean reason) channel console =
      let noted := concluded id (.clean reason) console
      if noted.isSpent && noted.reaches noted.watch.limit then
        (.waiting, channel, noted)
      else
        (.clean reason, closed channel (.clean reason), noted) :=
  rfl

theorem finish_of_unwatched {id : String} {outcome : SessionOutcome}
    {channel : LineChannel} {console : Console σ} (unwatched : console.watch = {}) :
    finish id outcome channel console =
      (outcome, closed channel outcome, concluded id outcome console) := by
  cases outcome with
  | clean reason =>
      simp [finish, endNote, closed, concluded, Console.record, unwatched,
        Moment.reaches]
  | fatal error => rfl
  | waiting => rfl

/-- Whatever becomes of the write side, the console is the same. -/
theorem console_finish (id : String) (outcome : SessionOutcome) (channel : LineChannel)
    (console : Console σ) :
    (finish id outcome channel console).2.2 = concluded id outcome console := by
  cases outcome with
  | clean reason =>
      rw [finish, apply_ite Prod.snd, apply_ite Prod.snd, ite_self]
      rfl
  | fatal error => rfl
  | waiting => rfl

theorem shutdown_concluded (id : String) (outcome : SessionOutcome)
    (console : Console σ) :
    (concluded id outcome console).shutdown = console.shutdown := by
  cases outcome with
  | clean reason => rfl
  | fatal error => rfl
  | waiting => rfl

theorem journal_concluded (id : String) (outcome : SessionOutcome)
    (console : Console σ) :
    (concluded id outcome console).journal.toList =
      console.journal.toList ++ endEvents id outcome := by
  unfold concluded endEvents
  cases endNote id outcome with
  | none => simp
  | some note => simp [Console.record]

theorem injects_concluded (id : String) (outcome : SessionOutcome)
    (console : Console σ) :
    console.Injects [] (concluded id outcome console) := by
  unfold concluded
  cases endNote id outcome with
  | none => exact .refl console
  | some note => exact Console.injects_noted note console

/-! ## Taking a line -/

private theorem isStopped_of_requested {console : Console σ}
    (requested : console.shutdown.requested = true) :
    console.catchUp.isStopped = true := by
  simp [Console.isStopped, (Console.works_catchUp console).requested requested]

theorem arrival?_of_requested {channel : LineChannel} {console : Console σ}
    (requested : console.shutdown.requested = true) :
    arrival? channel console = none := by
  unfold arrival?
  dsimp only
  rw [if_pos (isStopped_of_requested requested)]

/-- The line that a turn takes is the next one of the stream. -/
theorem received_of_arrival? {channel : LineChannel} {console : Console σ}
    {arrival : Arrival} (arrived : arrival? channel console = some arrival)
    (start : Moment) :
    ∃ later, channel.reader.receipts start = .line arrival.line :: later := by
  unfold arrival? at arrived
  dsimp only at arrived
  split at arrived
  · cases arrived
  · split at arrived
    · next received =>
      cases arrived
      obtain ⟨final, first⟩ := LineReader.receipts_of_receive_line received start
      exact ⟨_, first⟩
    · cases arrived

/-! ## One turn after the other -/

/-- What a session has come to that has answered some request lines. -/
structure Reached (channel : LineChannel) (console : Console σ)
    (exchanges : List Console.Exchange) (between : LineChannel)
    (present : Console σ) : Prop where
  results : ∀ exchange ∈ exchanges, ∃ reply, exchange.result = .ok reply
  settled : between.writer.unsent = []
  sink : between.writer.sink = channel.writer.sink
  flushes : between.writer.flushes = channel.writer.flushes + exchanges.length
  shutdowns : between.writer.shutdowns = channel.writer.shutdowns
  closed : between.writer.closed = channel.writer.closed
  taken : between.writer.taken.toList =
    channel.writer.taken.toList ++ exchanges.flatMap Console.Exchange.response
  received : ∀ start, ∃ final, channel.reader.receipts start =
    exchanges.map (.line ·.line) ++ between.reader.receipts final
  receives : console.Receives (exchanges.map Console.Exchange.line) present
  journal : present.shutdown.requested = false → present.journal.toList =
    console.journal.toList ++ exchanges.flatMap Console.Exchange.record

theorem Reached.nil {channel : LineChannel} {console : Console σ}
    (settled : channel.writer.unsent = []) :
    Reached channel console [] channel console := by
  constructor
  · intro exchange member
    cases member
  · exact settled
  · rfl
  · rfl
  · rfl
  · rfl
  · simp
  · intro start
    exact ⟨start, rfl⟩
  · exact Console.Works.refl console
  · simp

variable [Device σ]

theorem arrivals_of_served {channel after : LineChannel} {console later : Console σ}
    (turned : turn channel console = .served after later) :
    arrivals channel console =
      (arrival? channel console).toList ++ arrivals after later := by
  rw [arrivals]
  split
  · next found =>
    rw [turned] at found
    cases found
  · next found =>
    rw [turned] at found
    cases found
    rfl

theorem arrivals_of_ended {channel final : LineChannel} {console last : Console σ}
    {outcome : SessionOutcome}
    (turned : turn channel console = .ended outcome final last) :
    arrivals channel console = (arrival? channel console).toList := by
  rw [arrivals]
  split
  · rfl
  · next found =>
    rw [turned] at found
    cases found

theorem serve_of_served {channel after : LineChannel} {console later : Console σ}
    (turned : turn channel console = .served after later) :
    serve channel console = serve after later := by
  rw [serve]
  split
  · next found =>
    rw [turned] at found
    cases found
  · next found =>
    rw [turned] at found
    cases found
    rfl

theorem serve_of_ended {channel final : LineChannel} {console last : Console σ}
    {outcome : SessionOutcome}
    (turned : turn channel console = .ended outcome final last) :
    serve channel console = (outcome, final, last) := by
  rw [serve]
  split
  · next found =>
    rw [turned] at found
    cases found
    rfl
  · next found =>
    rw [turned] at found
    cases found

/-- Once shutdown was requested no further line is taken. -/
theorem arrivals_of_requested {channel : LineChannel} {console : Console σ}
    (requested : console.shutdown.requested = true) :
    arrivals channel console = [] := by
  have ended : ∃ outcome final last,
      turn channel console = .ended outcome final last := by
    unfold turn
    dsimp only
    rw [if_pos (isStopped_of_requested requested)]
    exact ⟨_, _, _, rfl⟩
  obtain ⟨outcome, final, last, turned⟩ := ended
  rw [arrivals_of_ended turned, arrival?_of_requested requested]
  rfl

theorem Reached.cons {channel middle between : LineChannel}
    {console later present : Console σ} {arrival : Arrival} {reply : Reply}
    {exchanges : List Console.Exchange}
    (settled : channel.writer.unsent = [])
    (received : ∀ start, ∃ final, channel.reader.receipts start =
      .line arrival.line :: middle.reader.receipts final)
    (serving : Serving channel console arrival reply middle later)
    (reached : Reached middle later exchanges between present) :
    Reached channel console
      ((Console.exchange arrival console).1 :: exchanges) between present := by
  obtain ⟨middleSettled, taken⟩ := LineWriter.taken_of_send_ok settled serving.sent
  have advances := LineWriter.advances_send settled reply.render
  rw [serving.sent] at advances
  constructor
  · intro exchange member
    rcases List.mem_cons.mp member with first | other
    · subst first
      exact ⟨reply, serving.result⟩
    · exact reached.results exchange other
  · exact reached.settled
  · exact reached.sink.trans advances.sink
  · rw [reached.flushes, LineWriter.flushes_of_send_ok settled serving.sent, List.length_cons]
    omega
  · exact reached.shutdowns.trans advances.shutdowns
  · exact reached.closed.trans advances.closed
  · rw [reached.taken, taken, List.flatMap_cons, List.append_assoc,
      Console.Exchange.response_of_ok serving.result]
  · intro start
    obtain ⟨next, first⟩ := received start
    obtain ⟨final, rest⟩ := reached.received next
    refine ⟨final, ?_⟩
    rw [first, rest]
    rfl
  · exact serving.receives.trans reached.receives
  · intro unrequested
    have before := reached.receives.unrequested unrequested
    obtain ⟨moment, journal, rfl, written⟩ := serving.replays before
    rw [reached.journal unrequested, List.flatMap_cons, ← List.append_assoc, ← written]

/-- A dispatcher goes on as the session does. -/
theorem replay_of_serving {channel after : LineChannel} {console later : Console σ}
    {arrival : Arrival} {reply : Reply}
    (serving : Serving channel console arrival reply after later) :
    Console.replay (Console.exchange arrival console).2 (arrivals after later) =
      Console.replay later (arrivals after later) := by
  cases requested : later.shutdown.requested with
  | true =>
      -- The consoles may differ, but no further line is served.
      rw [arrivals_of_requested requested]
      rfl
  | false =>
      obtain ⟨moment, journal, rfl, _⟩ := serving.replays requested
      exact (Console.replay_of_moved _ moment journal _).symm

/-! ## The whole course -/

/-- After every turn on the way the session has answered just the lines of the
turns so far. -/
def Stepwise (channel : LineChannel) (console : Console σ)
    (exchanges : List Console.Exchange) (present : Console σ) : Prop :=
  ∀ count ≤ exchanges.length, ∃ middle now,
    after count channel console = some (middle, now) ∧
      Reached channel console (exchanges.take count) middle now ∧
      now.Receives ((exchanges.drop count).map Console.Exchange.line) present

theorem Stepwise.nil {channel : LineChannel} {console : Console σ}
    (settled : channel.writer.unsent = []) :
    Stepwise channel console [] console := by
  intro count atMost
  cases Nat.le_zero.mp atMost
  exact ⟨channel, console, rfl, .nil settled, Console.Works.refl console⟩

theorem Stepwise.cons {channel middle between : LineChannel}
    {console later present : Console σ} {arrival : Arrival} {reply : Reply}
    {exchanges : List Console.Exchange}
    (settled : channel.writer.unsent = [])
    (turned : turn channel console = .served middle later)
    (received : ∀ start, ∃ final, channel.reader.receipts start =
      .line arrival.line :: middle.reader.receipts final)
    (serving : Serving channel console arrival reply middle later)
    (reached : Reached middle later exchanges between present)
    (stepwise : Stepwise middle later exchanges present) :
    Stepwise channel console
      ((Console.exchange arrival console).1 :: exchanges) present := by
  intro count atMost
  cases count with
  | zero =>
      have whole := Reached.cons settled received serving reached
      exact ⟨channel, console, rfl, .nil settled, whole.receives⟩
  | succ count =>
      obtain ⟨between, now, counted, part, leads⟩ :=
        stepwise count (Nat.le_of_succ_le_succ atMost)
      refine ⟨between, now, ?_, .cons settled received serving part, leads⟩
      rw [after, turned]
      exact counted

/-- Turns of a session that each serve a request line, one after the other. -/
inductive Course : LineChannel → Console σ → List Console.Exchange → LineChannel →
    Console σ → Prop where
  | nil (channel : LineChannel) (console : Console σ) :
      Course channel console [] channel console
  | cons {channel middle between : LineChannel} {console later present : Console σ}
      {arrival : Arrival} {reply : Reply} {exchanges : List Console.Exchange}
      (turned : turn channel console = .served middle later)
      (received : ∀ start, ∃ final, channel.reader.receipts start =
        .line arrival.line :: middle.reader.receipts final)
      (serving : Serving channel console arrival reply middle later)
      (goesOn : Course middle later exchanges between present) :
      Course channel console ((Console.exchange arrival console).1 :: exchanges) between
        present

theorem Course.receives {channel between : LineChannel} {console present : Console σ}
    {exchanges : List Console.Exchange}
    (course : Course channel console exchanges between present) :
    console.Receives (exchanges.map Console.Exchange.line) present := by
  induction course with
  | nil channel console => exact Console.Works.refl console
  | cons turned received serving _ induction => exact serving.receives.trans induction

theorem Course.reached {channel between : LineChannel} {console present : Console σ}
    {exchanges : List Console.Exchange}
    (course : Course channel console exchanges between present)
    (settled : channel.writer.unsent = []) :
    Reached channel console exchanges between present := by
  induction course with
  | nil channel console => exact .nil settled
  | cons turned received serving _ induction =>
      have settledAfter := (LineWriter.taken_of_send_ok settled serving.sent).1
      exact .cons settled received serving (induction settledAfter)

theorem Course.stepwise {channel between : LineChannel} {console present : Console σ}
    {exchanges : List Console.Exchange}
    (course : Course channel console exchanges between present)
    (settled : channel.writer.unsent = []) :
    Stepwise channel console exchanges present := by
  induction course with
  | nil channel console => exact .nil settled
  | cons turned received serving goesOn induction =>
      have settledAfter := (LineWriter.taken_of_send_ok settled serving.sent).1
      exact .cons settled turned received serving (goesOn.reached settledAfter)
        (induction settledAfter)

/-- A session answers some request lines, one turn each, and then comes the turn
that ends it. -/
theorem serve_course (channel : LineChannel) {console : Console σ}
    (unwatched : console.watch = {}) :
    ∃ exchanges between present,
      Course channel console exchanges between present ∧
      console.replay (arrivals channel console) =
        exchanges ++ present.replay (arrival? between present).toList ∧
      Ending between present (arrival? between present).toList (serve channel console).1
        (serve channel console).2.1 (serve channel console).2.2 := by
  fun_induction serve channel console with
  | case1 channel console outcome final last turned =>
      rcases turn_cases channel unwatched with
        ⟨arrival, reply, after, later, served, _⟩ |
        ⟨found, ends, atEnd, ended, ending⟩
      · rw [turned] at served
        cases served
      · rw [turned] at ended
        cases ended
        refine ⟨[], channel, console, .nil channel console, ?_, ending⟩
        rw [arrivals_of_ended turned]
        rfl
  | case2 channel console middle later turned induction =>
      rcases turn_cases channel unwatched with
        ⟨arrival, reply, after, next, served, arrived, received, serving⟩ |
        ⟨found, ends, atEnd, ended, _⟩
      · rw [turned] at served
        cases served
        have endless := serving.receives.unwatched unwatched
        obtain ⟨exchanges, between, present, course, replayed, ending⟩ :=
          induction endless
        refine ⟨(Console.exchange arrival console).1 :: exchanges, between, present,
          .cons turned received serving course, ?_, ending⟩
        rw [arrivals_of_served turned, arrived, List.cons_append, ← replayed,
          ← replay_of_serving serving]
        rfl
      · rw [turned] at ended
        cases ended

/-! ## From the start to the end -/

/-- The request lines that a session serves from its start to its end. -/
def requests (id : String) (powerOn : Bool) (channel : LineChannel)
    (console : Console σ) : List Arrival :=
  if (begin id powerOn console).1 then
    arrivals channel (begin id powerOn console).2
  else
    []

/-- What a dispatcher makes of the request lines of a session. -/
def transcript (id : String) (powerOn : Bool) (channel : LineChannel)
    (console : Console σ) : List Console.Exchange :=
  (begin id powerOn console).2.replay (requests id powerOn channel console)

/-- The start of a session presses a key at most. -/
theorem injects_begin (id : String) (powerOn : Bool) (console : Console σ) :
    ∃ calls, console.Injects calls (begin id powerOn console).2 ∧
      ∀ call ∈ calls, Call.IsWaking (.inject call.event call.display) := by
  unfold begin
  dsimp only
  generalize started : console.expire.record (.noted _) = now
  have starts : console.Injects [] now := by
    rw [← started]
    exact (Console.injects_expire console).trans (Console.injects_noted _ _)
  obtain ⟨calls, wakes, areAsked⟩ := (Console.plain_wake powerOn).composed.injects now
  have woken := starts.trans wakes
  refine ⟨calls, ?_, areAsked⟩
  cases run : (Console.wake powerOn).run now with
  | mk answered later =>
      rw [run] at woken
      match answered with
      | .error .shutdown => exact woken
      | .ok false => exact woken
      | .ok true => exact woken.idle (Console.injects_noted _ later)

/-- A start that is cut short leaves a console on which shutdown was requested. -/
theorem works_begin (id : String) (powerOn : Bool) (console : Console σ) :
    console.Works (begin id powerOn console).2 ∧
      (console.watch = {} → (begin id powerOn console).1 = false →
        (begin id powerOn console).2.shutdown.requested = true) := by
  obtain ⟨calls, injects, _⟩ := injects_begin id powerOn console
  refine ⟨injects.works, ?_⟩
  intro unwatched
  have endless := injects.works.unwatched unwatched
  revert endless
  unfold begin
  dsimp only
  generalize console.expire.record (.noted _) = now
  have stops := Console.stopsOn_wake powerOn now
  cases run : (Console.wake powerOn).run now with
  | mk answered later =>
      rw [run] at stops
      match answered with
      | .error .shutdown =>
          intro endless _
          exact (Console.isStopped_iff endless).mp (stops rfl)
      | .ok false => nofun
      | .ok true => nofun

/-- A session from its start to its end: some request lines that are answered,
one turn each, and the turn that ends it. -/
theorem run_turns (id : String) (powerOn : Bool) (channel : LineChannel)
    {console : Console σ} (unwatched : console.watch = {}) :
    ∃ exchanges between present outcome final ending,
      Course channel (begin id powerOn console).2 exchanges between present ∧
      transcript id powerOn channel console =
        exchanges ++ present.replay (arrival? between present).toList ∧
      Ending between present (arrival? between present).toList outcome final ending ∧
      run id powerOn channel console =
        (outcome, closed final outcome, concluded id outcome ending) := by
  obtain ⟨works, cut⟩ := works_begin id powerOn console
  have endless := works.unwatched unwatched
  unfold transcript requests run
  cases begun : begin id powerOn console with
  | mk awake opened =>
      rw [begun] at endless cut
      cases awake with
      | true =>
          obtain ⟨exchanges, between, present, course, replayed, ending⟩ :=
            serve_course channel endless
          have endlessly := ending.receives.unwatched (course.receives.unwatched endless)
          exact ⟨exchanges, between, present, _, _, _, course, replayed, ending,
            finish_of_unwatched endlessly⟩
      | false =>
          have requested := cut unwatched rfl
          refine ⟨[], channel, opened, .clean .cancelled, channel, opened,
            .nil channel opened, ?_, ?_, ?_⟩
          · rw [arrival?_of_requested requested]
            rfl
          · rw [arrival?_of_requested requested]
            exact .halted (.refl opened) requested
          · rw [← finish_of_unwatched endless, ← stopped_of_unwatched endless]
            rfl

/-- What a session comes to from its start to its end. -/
theorem run_course (id : String) (powerOn : Bool) (channel : LineChannel)
    {console : Console σ} (unwatched : console.watch = {})
    (settled : channel.writer.unsent = []) :
    ∃ exchanges between present last outcome final ending,
      Reached channel (begin id powerOn console).2 exchanges between present ∧
      Stepwise channel (begin id powerOn console).2 exchanges present ∧
      transcript id powerOn channel console = exchanges ++ present.replay last ∧
      Ending between present last outcome final ending ∧
      run id powerOn channel console =
        (outcome, closed final outcome, concluded id outcome ending) := by
  obtain ⟨exchanges, between, present, outcome, final, ending, course, replayed, ends,
    ran⟩ := run_turns id powerOn channel unwatched
  exact ⟨exchanges, between, present, _, outcome, final, ending, course.reached settled,
    course.stepwise settled, replayed, ends, ran⟩

/-- A session that nobody cancels answers every line of its stream, unless the
reply to the last line that it serves cannot be sent. -/
theorem run_of_unrequested (id : String) (powerOn : Bool) (channel : LineChannel)
    {console : Console σ} (unwatched : console.watch = {})
    (unrequested : (run id powerOn channel console).2.2.shutdown.requested = false) :
    ∃ served between present outcome final ending,
      Course channel (begin id powerOn console).2 served between present ∧
      present.shutdown.requested = false ∧
      run id powerOn channel console =
        (outcome, closed final outcome, concluded id outcome ending) ∧
      ((∃ receipt,
          transcript id powerOn channel console = served ∧
          (∃ reader, final = { between with reader }) ∧
          (∃ moment, ending = { present with toMoment := moment }) ∧
          (∀ start, between.reader.receipts start = [receipt]) ∧
          outcome? receipt = some outcome) ∨
        ∃ arrival reply error,
          let last := (Console.exchange arrival present).1
          transcript id powerOn channel console = served ++ [last] ∧
          last.result = .ok reply ∧ outcome = .fatal error ∧
          between.writer.send reply.render = (.error error, final.writer) ∧
          (∀ start, ∃ later,
            between.reader.receipts start = .line arrival.line :: later) ∧
          ending.journal.toList = present.journal.toList ++ last.beginning) := by
  obtain ⟨served, between, present, outcome, final, ending, course, replayed, ends,
    ran⟩ := run_turns id powerOn channel unwatched
  have quiet : ending.shutdown.requested = false := by
    rw [← shutdown_concluded id outcome ending]
    rw [ran] at unrequested
    exact unrequested
  refine ⟨served, between, present, outcome, final, ending, course,
    ends.receives.unrequested quiet, ran, ?_⟩
  rw [replayed]
  cases arrived : arrival? between present with
  | none =>
      rw [arrived] at ends
      left
      cases ends with
      | @closed receipt _ reader moment received ends unrequested =>
          exact ⟨receipt, List.append_nil served, ⟨reader, rfl⟩, ⟨moment, rfl⟩, received,
            ends⟩
      | halted works requested =>
          rw [requested] at quiet
          cases quiet
  | some arrival =>
      rw [arrived] at ends
      right
      cases ends with
      | interrupted result receives requested =>
          rw [requested] at quiet
          cases quiet
      | @unsent _ reply error reader writer _ result sent receives journal =>
          exact ⟨arrival, reply, error, rfl, result, rfl, sent,
            received_of_arrival? arrived, journal quiet⟩

end Session

end RemoteInput
