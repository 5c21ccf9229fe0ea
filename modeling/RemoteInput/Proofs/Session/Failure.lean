import RemoteInput.Device.InMemory
import RemoteInput.Proofs.Session.Course
import RemoteInput.Proofs.Stream.Sending

/-!
# Sessions whose replies cannot be sent

A reply that cannot be sent ends the session at once.  The line that it replies
to is the last one that was served, whatever has been read ahead, and the write
side is left as the failure has left it: no byte is offered any more, and it is
neither flushed nor shut down.  After an expected end the write side is flushed,
and shut down once unless that fails; what comes of the shutdown does not matter:
`failed_reply_ends_session`.
-/

namespace RemoteInput

namespace Console

/-- The reply line of an exchange; none for a command that was cut short. -/
def Exchange.replyLine? (exchange : Exchange) : Option String :=
  exchange.result.toOption.map Reply.render

/-- The reply lines of some exchanges, in order. -/
def replyLines (exchanges : List Exchange) : List String :=
  exchanges.filterMap Exchange.replyLine?

theorem replyLines_append (earlier later : List Exchange) :
    replyLines (earlier ++ later) = replyLines earlier ++ replyLines later :=
  List.filterMap_append

theorem replyLines_cons {exchange : Exchange} {reply : Reply}
    (result : exchange.result = .ok reply) (rest : List Exchange) :
    replyLines (exchange :: rest) = reply.render :: replyLines rest := by
  have line : exchange.replyLine? = some reply.render := by
    unfold Exchange.replyLine?
    rw [result]
    rfl
  exact List.filterMap_cons_some line

theorem length_replyLines {exchanges : List Exchange}
    (results : ∀ exchange ∈ exchanges, ∃ reply, exchange.result = .ok reply) :
    (replyLines exchanges).length = exchanges.length := by
  induction exchanges with
  | nil => rfl
  | cons exchange rest induction =>
      obtain ⟨reply, result⟩ := results exchange List.mem_cons_self
      have others := induction fun other member =>
        results other (List.mem_cons_of_mem exchange member)
      rw [replyLines_cons result, List.length_cons, List.length_cons, others]

end Console

/-! ## The answer to a shutdown call -/

namespace LineWriter

/-- The writer on a stream that answers shutdown calls in its own way. -/
def answering (shutdown : Nat → Option StreamFailure) (writer : LineWriter) : LineWriter :=
  { writer with sink := { writer.sink with shutdown } }

variable (shutdown : Nat → Option StreamFailure)

private theorem drain_answering (writer : LineWriter) :
    (writer.answering shutdown).drain =
      (writer.drain.1, writer.drain.2.answering shutdown) := by
  fun_induction drain writer with
  | case1 writer empty =>
      rw [drain]
      simp [answering, empty]
  | case2 writer pending failure answered =>
      rw [drain]
      simp [answering, pending, answered]
  | case3 writer pending answered =>
      rw [drain]
      simp [answering, pending, answered]
  | case4 writer pending most answered induction =>
      rw [drain]
      simp only [answering] at induction ⊢
      simp only [pending, answered, induction]
      rfl

private theorem flush_answering (writer : LineWriter) :
    (writer.answering shutdown).flush =
      (writer.flush.1, writer.flush.2.answering shutdown) := by
  unfold flush
  rw [drain_answering]
  cases writer.drain with
  | mk result after =>
      cases result with
      | error failure => rfl
      | ok =>
          dsimp only [answering]
          cases after.sink.flush after.flushes with
          | some failure => rfl
          | none => rfl

private theorem makeRoom_answering (writer : LineWriter) :
    (writer.answering shutdown).makeRoom =
      (writer.makeRoom.1, writer.makeRoom.2.answering shutdown) := by
  have same : (writer.answering shutdown).unsent = writer.unsent := rfl
  unfold makeRoom
  rw [same, flush_answering]
  split
  · rfl
  · rfl

theorem send_answering (writer : LineWriter) (line : String) :
    (writer.answering shutdown).send line =
      ((writer.send line).1, (writer.send line).2.answering shutdown) := by
  unfold send
  rw [makeRoom_answering]
  cases writer.makeRoom with
  | mk result after =>
      cases result with
      | error failure => rfl
      | ok =>
          have flushed := flush_answering shutdown
            { after with unsent := after.unsent ++ wire line }
          dsimp only [answering] at flushed ⊢
          rw [flushed]

end LineWriter

/-- The channel over a stream that answers shutdown calls in its own way. -/
def LineChannel.answering (shutdown : Nat → Option StreamFailure) (channel : LineChannel) :
    LineChannel :=
  { channel with writer := channel.writer.answering shutdown }

namespace Session

variable {σ : Type}

section

variable (shutdown : Nat → Option StreamFailure)

/-- What comes of a turn over a stream that answers shutdown calls in its own
way. -/
def Turn.answering : Turn σ → Turn σ
  | .served channel console => .served (channel.answering shutdown) console
  | .ended outcome channel console => .ended outcome (channel.answering shutdown) console

private theorem finish_answering (id : String) (outcome : SessionOutcome)
    (channel : LineChannel) (console : Console σ) :
    (finish id outcome (channel.answering shutdown) console).1 =
        (finish id outcome channel console).1 ∧
      (finish id outcome (channel.answering shutdown) console).2.2 =
        (finish id outcome channel console).2.2 := by
  cases outcome with
  | clean reason =>
      rw [finish_clean, finish_clean]
      dsimp only
      split
      · exact ⟨rfl, rfl⟩
      · exact ⟨rfl, rfl⟩
  | fatal error => exact ⟨rfl, rfl⟩
  | waiting => exact ⟨rfl, rfl⟩

variable [Device σ]

private theorem answer_answering (line : String) (channel : LineChannel)
    (console : Console σ) :
    answer line (channel.answering shutdown) console =
      (answer line channel console).answering shutdown := by
  unfold answer
  cases (Console.dispatch line).run console with
  | mk result later =>
      cases result with
      | error interruption =>
          cases interruption
          rfl
      | ok reply =>
          have sends : (channel.answering shutdown).writer.send reply.render = _ :=
            channel.writer.send_answering shutdown reply.render
          dsimp only
          rw [sends]
          split
          · rfl
          · cases channel.writer.send reply.render with
            | mk result writer =>
                cases result with
                | error error => rfl
                | ok => rfl

private theorem turn_answering (channel : LineChannel) (console : Console σ) :
    turn (channel.answering shutdown) console =
      (turn channel console).answering shutdown := by
  have same : (channel.answering shutdown).reader = channel.reader := rfl
  unfold turn
  dsimp only
  rw [same]
  split
  · rfl
  · cases channel.reader.receive console.catchUp.deadline console.catchUp.toMoment with
    | mk receipt read =>
        obtain ⟨reader, moment⟩ := read
        cases receipt with
        | line line =>
            exact answer_answering shutdown line { channel with reader }
              ({ console.catchUp with toMoment := moment }.record (.received line))
        | endOfStream => rfl
        | failed error => rfl
        | overdue => rfl
        | silent => rfl

private theorem serve_answering (channel : LineChannel) (console : Console σ) :
    serve (channel.answering shutdown) console =
      ((serve channel console).1, (serve channel console).2.1.answering shutdown,
        (serve channel console).2.2) := by
  fun_induction serve channel console with
  | case1 channel console outcome final last turned =>
      apply serve_of_ended
      rw [turn_answering, turned]
      rfl
  | case2 channel console middle later turned induction =>
      rw [← induction]
      apply serve_of_served
      rw [turn_answering, turned]
      rfl

/-- How the stream answers shutdown calls changes neither how a session ends nor
what it does. -/
theorem run_answering (id : String) (powerOn : Bool) (channel : LineChannel)
    (console : Console σ) :
    (run id powerOn (channel.answering shutdown) console).1 =
        (run id powerOn channel console).1 ∧
      (run id powerOn (channel.answering shutdown) console).2.2 =
        (run id powerOn channel console).2.2 := by
  unfold run
  cases begin id powerOn console with
  | mk awake opened =>
      cases awake with
      | true =>
          dsimp only
          rw [if_pos rfl, if_pos rfl, serve_answering]
          exact finish_answering shutdown id _ _ _
      | false => exact finish_answering shutdown id _ _ _

end

/-! ## Replies that are sent -/

variable [Device σ]

/-- The replies of a course of turns are sent one after the other, all with
success. -/
theorem Course.sends {channel between : LineChannel} {console present : Console σ}
    {exchanges : List Console.Exchange}
    (course : Course channel console exchanges between present) :
    (∀ sending ∈ channel.writer.sendings (Console.replyLines exchanges),
      sending.result = .ok ()) ∧
    channel.writer.sendAll (Console.replyLines exchanges) = between.writer := by
  induction course with
  | nil channel console =>
      refine ⟨?_, rfl⟩
      intro sending member
      cases member
  | @cons channel middle between console later present arrival reply exchanges turned
      received serving goesOn induction =>
      obtain ⟨succeed, writer⟩ := induction
      have sent : (channel.writer.send reply.render).2 = middle.writer :=
        congrArg Prod.snd serving.sent
      rw [Console.replyLines_cons serving.result]
      constructor
      · intro sending member
        rw [LineWriter.sendings, sent] at member
        rcases List.mem_cons.mp member with isFirst | isLater
        · rw [isFirst]
          exact congrArg Prod.fst serving.sent
        · exact succeed sending isLater
      · rw [LineWriter.sendAll, List.foldl_cons, sent]
        exact writer

/-- The only element of a list that is found nowhere before its end is its last
one. -/
private theorem eq_of_append_singleton {α : Type} {clean earlier later : List α}
    {last found : α} (parts : clean ++ [last] = earlier ++ found :: later)
    (fresh : found ∉ clean) :
    earlier = clean ∧ found = last ∧ later = [] := by
  rcases later.eq_nil_or_concat with rfl | ⟨others, other, rfl⟩
  · obtain ⟨rfl, same⟩ := List.append_inj' parts rfl
    cases same
    exact ⟨rfl, rfl, rfl⟩
  · rw [List.concat_eq_append, ← List.cons_append, ← List.append_assoc] at parts
    obtain ⟨rfl, _⟩ := List.append_inj' parts rfl
    exact absurd (List.mem_append_right _ List.mem_cons_self) fresh

section

variable {id : String} {powerOn : Bool} {channel : LineChannel} {console : Console σ}
  (unwatched : console.watch = {}) (settled : channel.writer.unsent = [])
  (unrequested : (run id powerOn channel console).2.2.shutdown.requested = false)

include unwatched settled unrequested

/-- The lines that are served are the first of the stream, and all have replies. -/
private theorem replies_of_unrequested :
    (∀ exchange ∈ transcript id powerOn channel console,
      ∃ reply, exchange.result = .ok reply) ∧
    ∀ start, ∃ later, channel.reader.receipts start =
      (requests id powerOn channel console).map (.line ·.line) ++ later := by
  obtain ⟨served, between, present, outcome, final, ending, course, _, _, ends⟩ :=
    run_of_unrequested id powerOn channel unwatched unrequested
  have reached := course.reached settled
  have lines : (requests id powerOn channel console).map (Receipt.line ·.line) =
      (transcript id powerOn channel console).map (.line ·.line) := by
    have same := Console.line_replay (begin id powerOn console).2
      (requests id powerOn channel console)
    have asReceipts := congrArg (List.map Receipt.line) same
    rw [List.map_map, List.map_map] at asReceipts
    exact asReceipts.symm
  rw [lines]
  rcases ends with ⟨_, all, _⟩ | ⟨arrival, reply, error, all, result, _, _, received, _⟩
  · rw [all]
    refine ⟨reached.results, ?_⟩
    intro start
    obtain ⟨final, begins⟩ := reached.received start
    exact ⟨_, begins⟩
  · rw [all]
    constructor
    · intro exchange member
      rcases List.mem_append.mp member with isEarlier | isLast
      · exact reached.results exchange isEarlier
      · rw [List.mem_singleton.mp isLast]
        exact ⟨reply, result⟩
    · intro start
      obtain ⟨final, begins⟩ := reached.received start
      obtain ⟨later, next⟩ := received final
      refine ⟨later, ?_⟩
      rw [begins, next, List.map_append, List.append_assoc]
      rfl

/-- The reply that cannot be sent is the last one. -/
private theorem ended_of_failed {earlier later : List LineWriter.Sending}
    {failed : LineWriter.Sending} {error : ChannelError}
    (parts : channel.writer.sendings
      (Console.replyLines (transcript id powerOn channel console)) =
        earlier ++ failed :: later)
    (fails : failed.result = .error error) :
    later = [] ∧ (∀ one ∈ earlier, one.result = .ok ()) ∧
    (run id powerOn channel console).1 = .fatal error ∧
    (run id powerOn channel console).2.1.writer = failed.after ∧
    failed.after.shutdowns = channel.writer.shutdowns ∧
    ∃ served last part, transcript id powerOn channel console = served ++ [last] ∧
      served.length = earlier.length ∧ part <+: LineWriter.wire failed.line ∧
      failed.after.taken.toList = channel.writer.taken.toList ++
        served.flatMap Console.Exchange.response ++ part ∧
      (run id powerOn channel console).2.2.journal.toList =
        (begin id powerOn console).2.journal.toList ++
          served.flatMap Console.Exchange.record ++ last.beginning ++
          endEvents id (.fatal error) := by
  obtain ⟨served, between, present, outcome, final, ending, course, quiet, ran, ends⟩ :=
    run_of_unrequested id powerOn channel unwatched unrequested
  obtain ⟨succeed, writer⟩ := course.sends
  have reached := course.reached settled
  -- What was sent with success is not what failed.
  have fresh : failed ∉ channel.writer.sendings (Console.replyLines served) := by
    intro member
    rw [succeed failed member] at fails
    cases fails
  rcases ends with ⟨_, all, _⟩ |
    ⟨arrival, reply, unsent, all, result, isFatal, sent, _, journal⟩
  · rw [all] at parts
    rw [parts] at fresh
    exact absurd (List.mem_append_right _ List.mem_cons_self) fresh
  · rw [all, Console.replyLines_append, Console.replyLines_cons result,
      LineWriter.sendings_append, writer] at parts
    obtain ⟨rfl, rfl, rfl⟩ := eq_of_append_singleton parts fresh
    rw [sent] at fails ⊢
    cases fails
    obtain ⟨part, initial, taken⟩ := LineWriter.taken_of_send_error reached.settled sent
    have advances := LineWriter.advances_send reached.settled reply.render
    rw [sent] at advances
    rw [ran, isFatal]
    refine ⟨rfl, succeed, rfl, rfl, advances.shutdowns.trans reached.shutdowns, served,
      _, part, all, ?_, initial, ?_, ?_⟩
    · have sends := congrArg List.length
        (LineWriter.line_sendings channel.writer (Console.replyLines served))
      rw [List.length_map] at sends
      rw [sends, Console.length_replyLines reached.results]
    · rw [taken, reached.taken]
    · rw [journal_concluded, journal, reached.journal quiet]

/-- After an expected end everything was sent, and the write side is closed. -/
private theorem closed_of_clean {reason : CloseReason}
    (clean : (run id powerOn channel console).1 = .clean reason) :
    let replies := Console.replyLines (transcript id powerOn channel console)
    let writer := channel.writer.sendAll replies
    (∀ one ∈ channel.writer.sendings replies, one.result = .ok ()) ∧
    writer.unsent = [] ∧ writer.shutdowns = channel.writer.shutdowns ∧
    (run id powerOn channel console).2.1.writer = writer.close.2 ∧
    writer.taken.toList = channel.writer.taken.toList ++
      (transcript id powerOn channel console).flatMap Console.Exchange.response ∧
    writer.sink = channel.writer.sink := by
  obtain ⟨served, between, present, outcome, final, ending, course, _, ran, ends⟩ :=
    run_of_unrequested id powerOn channel unwatched unrequested
  obtain ⟨succeed, writer⟩ := course.sends
  have reached := course.reached settled
  rw [ran] at clean
  dsimp only at clean
  subst clean
  rcases ends with ⟨_, all, ⟨reader, rfl⟩, _⟩ | ⟨_, _, _, _, _, isFatal, _⟩
  · rw [all, ran]
    dsimp only
    rw [writer]
    exact ⟨succeed, reached.settled, reached.shutdowns, rfl, reached.taken, reached.sink⟩
  · cases isFatal

end

/-- A reply that cannot be sent ends the session: the lines that were served are
the first of the stream, up to the one with this reply.  The write side has taken
the replies before it and an initial part of it, and is left as it is.  After an
expected end all replies were sent, and the write side is closed once, unless the
flush before that fails.  How the stream answers that call changes nothing. -/
theorem failed_reply_ends_session (id : String) (powerOn : Bool) (reader : LineReader)
    (sink : Sink) (console : Console σ) (unwatched : console.watch = {})
    (uncancelled : (run id powerOn { reader, writer := .start sink }
      console).2.2.shutdown.requested = false) :
    let channel : LineChannel := { reader, writer := .start sink }
    let opened := (begin id powerOn console).2
    let lines := requests id powerOn channel console
    let exchanges := opened.replay lines
    let replies := Console.replyLines exchanges
    let sent := (LineWriter.start sink).sendings replies
    let ended := run id powerOn channel console
    (∀ exchange ∈ exchanges, ∃ reply, exchange.result = .ok reply) ∧
    (∀ start, ∃ later, reader.receipts start = lines.map (.line ·.line) ++ later) ∧
    (∀ earlier failed later error, sent = earlier ++ failed :: later →
      failed.result = .error error →
      later = [] ∧ (∀ one ∈ earlier, one.result = .ok ()) ∧
      ended.1 = .fatal error ∧
      ended.2.1.writer = failed.after ∧ failed.after.shutdowns = 0 ∧
      ∃ served last part, exchanges = served ++ [last] ∧
        served.length = earlier.length ∧ part <+: LineWriter.wire failed.line ∧
        failed.after.taken.toList =
          served.flatMap Console.Exchange.response ++ part ∧
        ended.2.2.journal.toList = opened.journal.toList ++
          served.flatMap Console.Exchange.record ++ last.beginning ++
          endEvents id ended.1) ∧
    (∀ reason, ended.1 = .clean reason →
      let writer := (LineWriter.start sink).sendAll replies
      (∀ one ∈ sent, one.result = .ok ()) ∧
      writer.unsent = [] ∧ writer.shutdowns = 0 ∧
      ended.2.1.writer = writer.close.2 ∧
      ended.2.1.writer.taken.toList = exchanges.flatMap Console.Exchange.response ∧
      ended.2.1.writer.shutdowns =
        if sink.flush writer.flushes = none then 1 else 0) ∧
    ∀ shutdown,
      let other := run id powerOn
        { reader, writer := .start { sink with shutdown } } console
      other.1 = ended.1 ∧ other.2.2 = ended.2.2 := by
  intro channel opened lines exchanges replies sent ended
  have settled : channel.writer.unsent = [] := rfl
  have requests := replies_of_unrequested unwatched settled uncancelled
  refine ⟨requests.1, requests.2, ?_, ?_, ?_⟩
  · intro earlier failed later error parts fails
    obtain ⟨nothing, succeed, isFatal, writer, shutdowns, served, last, part, all, length,
      initial, taken, journal⟩ := ended_of_failed unwatched settled uncancelled parts fails
    have isEnded : ended.1 = .fatal error := isFatal
    refine ⟨nothing, succeed, isFatal, writer, shutdowns, served, last, part, all, length,
      initial, taken, ?_⟩
    rw [isEnded]
    exact journal
  · intro reason clean writer
    obtain ⟨succeed, unsent, shutdowns, closes, taken, sameSink⟩ :=
      closed_of_clean unwatched settled uncancelled clean
    have closed := LineWriter.close_of_settled unsent
    refine ⟨succeed, unsent, shutdowns, closes, ?_, ?_⟩
    · rw [closes, closed.1, taken]
      rfl
    · rw [closes, closed.2.1, shutdowns, sameSink]
      exact Nat.zero_add _
  · intro shutdown
    exact run_answering shutdown id powerOn channel console

theorem failed_reply_ends_session_of_broken_pipe :
    let reader := LineReader.start 64
      [.bytes (LineWriter.wire "PING" ++ LineWriter.wire "FOO" ++
        LineWriter.wire "KEYCODE 82")]
    let sink : Sink :=
      { write := fun call =>
          if call = 3 then .fails { kind := .brokenPipe, text := "gone" } else .takes 5
        flush := fun _ => none
        shutdown := fun _ => none }
    let console : Console InMemoryDevice := .start .primary {} {}
    let channel : LineChannel := { reader, writer := .start sink }
    let ended := run "a" false channel console
    console.watch = {} ∧ ended.2.2.shutdown.requested = false ∧
      (∃ error, ended.1 = .fatal error) ∧
      (requests "a" false channel console).map Arrival.line = ["PING", "FOO"] ∧
      ended.2.1.writer.taken.toList =
        LineWriter.wire "OK PONG" ++ (LineWriter.wire "ERR UNKNOWN_COMMAND").take 5 ∧
      ended.2.1.writer.writes = 4 ∧ ended.2.1.writer.shutdowns = 0 := by
  intro reader sink console channel ended
  have uncancelled : ended.2.2.shutdown.requested = false := by decide +kernel
  obtain ⟨_, _, fatal, _⟩ :=
    failed_reply_ends_session "a" false reader sink console rfl uncancelled
  have replies : Console.replyLines (transcript "a" false channel console) =
      ["OK PONG", "ERR UNKNOWN_COMMAND"] := by
    decide +kernel
  let sent := (LineWriter.start sink).sendings ["OK PONG", "ERR UNKNOWN_COMMAND"]
  let failed := sent[1]
  have parts : (LineWriter.start sink).sendings
      (Console.replyLines (transcript "a" false channel console)) =
        sent.take 1 ++ failed :: [] := by
    rw [replies]
    rfl
  cases answer : failed.result with
  | ok =>
      have isError : failed.result.isOk = false := by decide +kernel
      rw [answer] at isError
      cases isError
  | error error =>
      obtain ⟨_, _, isFatal, writer, shutdowns, _⟩ := fatal _ failed [] error parts answer
      refine ⟨rfl, uncancelled, ⟨error, isFatal⟩, by decide +kernel, ?_, ?_, ?_⟩
      · rw [writer]
        decide +kernel
      · rw [writer]
        decide +kernel
      · rw [writer]
        exact shutdowns

end Session

end RemoteInput
