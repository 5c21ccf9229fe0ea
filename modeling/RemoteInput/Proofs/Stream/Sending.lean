import Mathlib.Logic.Relation
import RemoteInput.Proofs.Stream.Writing

/-!
# Many lines through one writer

Callers that share a writer send one line at a time, in the order in which they
get hold of it.  A line whose sending failed may be delivered later, with the
next line, in whole or in part; but nothing is delivered twice, out of order or
between the bytes of another line.

`Sending` is one line that is sent, and what becomes of the writer.  A line is
`accepted` once room was made for it, and from then on it is delivered or
unsent: `bytes_sendings`.  `sent_in_order` says what that comes to, also in the
midst of sending a line, which is a number of `Step`s.
-/

namespace RemoteInput

namespace LineWriter

/-! ## In the midst of sending -/

/-- The writer after the stream has answered a write call. -/
def offered (writer : LineWriter) : LineWriter :=
  match writer.sink.write writer.writes with
  | .fails _ => { writer with writes := writer.writes + 1 }
  | .takes most =>
      { writer with
        writes := writer.writes + 1
        unsent := writer.unsent.drop most
        taken := writer.taken ++ writer.unsent.take most }

/-- What happens to a writer at one moment. -/
inductive Step : LineWriter → LineWriter → Prop where
  | write (writer : LineWriter) : Step writer writer.offered
  | flush (writer : LineWriter) :
      Step writer { writer with flushes := writer.flushes + 1 }
  /-- A line joins the unsent bytes. -/
  | join (writer : LineWriter) (line : String) :
      Step writer { writer with unsent := writer.unsent ++ wire line }

/-- A writer that comes from another in a number of steps. -/
abbrev Steps : LineWriter → LineWriter → Prop :=
  Relation.ReflTransGen Step

theorem Step.grows {before after : LineWriter} (step : Step before after) :
    before.taken.toList <+: after.taken.toList := by
  cases step with
  | write =>
      unfold offered
      split
      · exact List.prefix_rfl
      · simp
  | flush => exact List.prefix_rfl
  | join line => exact List.prefix_rfl

/-- What was delivered stays delivered. -/
theorem Steps.grows {before after : LineWriter} (steps : Steps before after) :
    before.taken.toList <+: after.taken.toList := by
  induction steps with
  | refl => exact List.prefix_rfl
  | tail _ step induction => exact induction.trans step.grows

private theorem steps_drain (writer : LineWriter) : Steps writer writer.drain.2 := by
  fun_induction drain writer with
  | case1 writer empty => exact .refl
  | case2 writer pending failure answered =>
      have offer : writer.offered = { writer with writes := writer.writes + 1 } := by
        simp [offered, answered]
      exact .single (offer ▸ .write writer)
  | case3 writer pending answered =>
      have offer : writer.offered = { writer with writes := writer.writes + 1 } := by
        simp [offered, answered]
      exact .single (offer ▸ .write writer)
  | case4 writer pending most answered induction =>
      refine .head ?_ induction
      have step := Step.write writer
      simp only [offered, answered] at step
      exact step

private theorem steps_flush (writer : LineWriter) : Steps writer writer.flush.2 := by
  have drained := steps_drain writer
  unfold flush
  cases result : writer.drain with
  | mk answer after =>
      rw [result] at drained
      cases answer with
      | error failure => exact drained
      | ok =>
          have flushed := drained.tail (.flush after)
          dsimp only
          split
          · exact flushed
          · exact flushed

private theorem steps_makeRoom (writer : LineWriter) : Steps writer writer.makeRoom.2 := by
  unfold makeRoom
  split
  · exact steps_flush writer
  · exact .refl

/-- To send a line takes a number of steps. -/
theorem steps_send (writer : LineWriter) (line : String) :
    Steps writer (writer.send line).2 := by
  have made := steps_makeRoom writer
  unfold send
  cases room : writer.makeRoom with
  | mk answer after =>
      rw [room] at made
      cases answer with
      | error failure => exact made
      | ok => exact (made.tail (.join after line)).trans (steps_flush _)

/-! ## One line -/

private theorem advances_makeRoom (writer : LineWriter) :
    Advances writer writer.makeRoom.2 := by
  unfold makeRoom
  split
  · exact (advances_flush writer).1
  · exact .refl writer

/-- A line for which no room was made is not sent. -/
private theorem send_of_full {writer : LineWriter} {failure : StreamFailure}
    (full : writer.makeRoom.1 = .error failure) (line : String) :
    writer.send line = (.error (.ofFailure failure), writer.makeRoom.2) := by
  unfold send
  cases room : writer.makeRoom with
  | mk answer after =>
      rw [room] at full
      dsimp only at full
      subst full
      rfl

/-- A line for which room was made joins the unsent bytes, which are flushed. -/
private theorem send_of_room {writer : LineWriter} (room : writer.makeRoom.1 = .ok ())
    (line : String) :
    let joined := { writer.makeRoom.2 with
      unsent := writer.makeRoom.2.unsent ++ wire line }
    writer.send line = (joined.flush.1.mapError .ofFailure, joined.flush.2) := by
  unfold send
  cases made : writer.makeRoom with
  | mk answer after =>
      rw [made] at room
      dsimp only at room
      subst room
      rfl

/-- A line that is sent: the writer before and after, and the answer. -/
structure Sending where
  line : String
  before : LineWriter
  result : Except ChannelError Unit
  after : LineWriter

/-- Room was made for the line. -/
def Sending.accepted (sending : Sending) : Bool :=
  sending.before.makeRoom.1.isOk

/-- The bytes of the lines for which room was made. -/
def acceptedBytes (sendings : List Sending) : List UInt8 :=
  (sendings.filter Sending.accepted).flatMap fun sending => wire sending.line

theorem acceptedBytes_cons (sending : Sending) (rest : List Sending) :
    acceptedBytes (sending :: rest) =
      (if sending.accepted then wire sending.line else []) ++ acceptedBytes rest := by
  unfold acceptedBytes
  cases accepted : sending.accepted with
  | true => simp [accepted]
  | false => simp [accepted]

/-- What sending a line comes to: no byte is lost, and none is left if it
succeeds. -/
structure Sending.Sound (sending : Sending) : Prop where
  sends : sending.before.send sending.line = (sending.result, sending.after)
  bytes : sending.after.taken.toList ++ sending.after.unsent =
    sending.before.taken.toList ++ sending.before.unsent ++ acceptedBytes [sending]
  accepts : sending.result = .ok () → sending.accepted = true
  settles : sending.result = .ok () → sending.after.unsent = []
  steps : Steps sending.before sending.after

theorem sound_send (writer : LineWriter) (line : String) :
    Sending.Sound
      { line, before := writer, result := (writer.send line).1,
        after := (writer.send line).2 } := by
  have steps := steps_send writer line
  have made := advances_makeRoom writer
  cases room : writer.makeRoom.1 with
  | error failure =>
      have full := send_of_full room line
      constructor
      · rfl
      · simp only [acceptedBytes, Sending.accepted, room, full, Except.isOk,
          Except.toBool, List.filter_cons, List.filter_nil, List.flatMap_nil,
          List.append_nil, Bool.false_eq_true, if_false]
        exact made.bytes
      · rw [full]
        nofun
      · rw [full]
        nofun
      · exact steps
  | ok =>
      have sent := send_of_room room line
      dsimp only at sent
      generalize isJoined : ({ writer.makeRoom.2 with
        unsent := writer.makeRoom.2.unsent ++ wire line } : LineWriter) = joined at sent
      obtain ⟨flushed, settles⟩ := advances_flush joined
      have accepted : writer.makeRoom.1.isOk = true := by
        rw [room]
        rfl
      constructor
      · rfl
      · have bytes : joined.flush.2.taken.toList ++ joined.flush.2.unsent =
            writer.taken.toList ++ writer.unsent ++ wire line := by
          rw [flushed.bytes, ← isJoined, ← made.bytes, List.append_assoc]
        simp only [acceptedBytes_cons, Sending.accepted, accepted, if_true, sent]
        simpa [acceptedBytes] using bytes
      · intro _
        exact accepted
      · intro succeeded
        rw [sent] at succeeded ⊢
        cases answer : joined.flush.1 with
        | error failure =>
            rw [answer] at succeeded
            cases succeeded
        | ok => exact settles answer
      · exact steps

/-! ## Many lines -/

/-- Sends lines one after the other, whatever becomes of each. -/
def sendings (writer : LineWriter) : List String → List Sending
  | [] => []
  | line :: rest =>
      { line, before := writer, result := (writer.send line).1,
        after := (writer.send line).2 } :: sendings (writer.send line).2 rest

/-- The writer after lines were sent, whatever became of each. -/
def sendAll (writer : LineWriter) (lines : List String) : LineWriter :=
  lines.foldl (fun writer line => (writer.send line).2) writer

theorem sendings_append (writer : LineWriter) (earlier later : List String) :
    writer.sendings (earlier ++ later) =
      writer.sendings earlier ++ (writer.sendAll earlier).sendings later := by
  induction earlier generalizing writer with
  | nil => rfl
  | cons line rest induction => exact congrArg (_ :: ·) (induction (writer.send line).2)

theorem line_sendings (writer : LineWriter) (lines : List String) :
    (writer.sendings lines).map Sending.line = lines := by
  induction lines generalizing writer with
  | nil => rfl
  | cons line rest induction => rw [sendings, List.map_cons, induction]

theorem sound_sendings (writer : LineWriter) (lines : List String) :
    ∀ sending ∈ writer.sendings lines, sending.Sound := by
  induction lines generalizing writer with
  | nil =>
      intro sending member
      cases member
  | cons line rest induction =>
      intro sending member
      rcases List.mem_cons.mp member with isFirst | isLater
      · subst isFirst
        exact sound_send writer line
      · exact induction _ sending isLater

/-- Nothing is lost: what was accepted has been delivered or is unsent. -/
theorem bytes_sendings {writer : LineWriter} {lines : List String}
    {earlier later : List Sending} {sending : Sending}
    (sent : writer.sendings lines = earlier ++ sending :: later) :
    sending.after.taken.toList ++ sending.after.unsent =
      writer.taken.toList ++ writer.unsent ++ acceptedBytes (earlier ++ [sending]) := by
  induction lines generalizing writer earlier with
  | nil => simp [sendings] at sent
  | cons line rest induction =>
      have first := (sound_send writer line).bytes
      rw [sendings] at sent
      cases earlier with
      | nil =>
          simp only [List.nil_append, List.cons.injEq] at sent
          obtain ⟨rfl, -⟩ := sent
          exact first
      | cons head earlier =>
          simp only [List.cons_append, List.cons.injEq] at sent
          obtain ⟨rfl, sentLater⟩ := sent
          rw [induction sentLater, first, List.cons_append, acceptedBytes_cons _ (_ ++ _),
            acceptedBytes_cons _ []]
          simp [acceptedBytes]

/-- Lines are sent one after the other over any stream, by whoever gets hold of
the writer.  At every moment the bytes that were delivered begin the bytes of the
lines that were accepted so far.  Every line that was sent with success is among
these, and when it has been sent, it has gone out whole, and so have all that were
accepted before it. -/
theorem sent_in_order (sink : Sink) (lines : List String) :
    let sent := (start sink).sendings lines
    sent.map Sending.line = lines ∧
    ∀ earlier sending later, sent = earlier ++ sending :: later →
      let bytes := acceptedBytes (earlier ++ [sending])
      sending.before.send sending.line = (sending.result, sending.after) ∧
      Steps sending.before sending.after ∧
      (∀ now, Steps sending.before now → Steps now sending.after →
        now.taken.toList <+: bytes) ∧
      (∀ one ∈ earlier ++ [sending], one.result = .ok () → one.accepted = true) ∧
      (sending.result = .ok () → sending.after.taken.toList = bytes) := by
  intro sent
  refine ⟨line_sendings (start sink) lines, ?_⟩
  intro earlier sending later parts bytes
  have sound := sound_sendings (start sink) lines
  have isSent : ∀ one ∈ earlier ++ [sending], one ∈ sent := by
    intro one member
    rw [parts, List.append_cons]
    exact List.mem_append_left later member
  have last := sound sending (isSent sending (by simp))
  have delivered : sending.after.taken.toList ++ sending.after.unsent = bytes :=
    bytes_sendings parts
  refine ⟨last.sends, last.steps, ?_, ?_, ?_⟩
  · intro now _ goesOn
    exact goesOn.grows.trans ⟨sending.after.unsent, delivered⟩
  · intro one member
    exact (sound one (isSent one member)).accepts
  · intro succeeded
    rw [last.settles succeeded, List.append_nil] at delivered
    exact delivered

theorem sent_in_order_of_broken_writes :
    let sink : Sink :=
      { write := fun call =>
          if call = 1 then .fails { kind := .brokenPipe, text := "gone" }
          else if call = 2 then .takes 0
          else .takes (call + 1)
        flush := fun _ => none
        shutdown := fun _ => none }
    let sent := (start sink).sendings ["OK", "OK PONG", "OK"]
    ∃ earlier sending later, sent = earlier ++ sending :: later ∧
      earlier.map (fun one => (one.line, one.result.isOk, one.after.taken.toList)) =
        [("OK", false, [0x4F]), ("OK PONG", false, [0x4F])] ∧
      sending.result = .ok () ∧
      sending.after.taken.toList = wire "OK" ++ wire "OK PONG" ++ wire "OK" := by
  intro sink sent
  let earlier := sent.take 2
  let sending := sent[2]
  have parts : sent = earlier ++ sending :: [] := rfl
  have isOk : sending.result.isOk = true := by decide +kernel
  have succeeded : sending.result = .ok () := by
    cases answer : sending.result with
    | error error =>
        rw [answer] at isOk
        cases isOk
    | ok => rfl
  have bytes : acceptedBytes (earlier ++ [sending]) =
      wire "OK" ++ wire "OK PONG" ++ wire "OK" := by
    decide +kernel
  obtain ⟨_, ordered⟩ := sent_in_order sink ["OK", "OK PONG", "OK"]
  obtain ⟨_, _, _, _, whole⟩ := ordered earlier sending [] parts
  exact ⟨earlier, sending, [], parts, by decide +kernel, succeeded,
    (whole succeeded).trans bytes⟩

end LineWriter

end RemoteInput
