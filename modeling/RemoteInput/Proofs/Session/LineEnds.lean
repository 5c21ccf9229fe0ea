import Mathlib.Data.List.TakeWhile
import RemoteInput.Device.InMemory
import RemoteInput.Proofs.Session.Course
import RemoteInput.Proofs.Stream.Framing

/-!
# Peers that end their lines in different ways

A carriage return before a line feed is dropped, but it counts among the bytes
that a line may have.  So a stream whose lines end in both is received as one
whose lines end in a line feed alone, up to the first line that has as many bytes
as a line may have: that line is too long.

What a session does depends on what its reader hands out, and not on how the
lines were ended: readers that are `Alike` serve it alike.
-/

namespace RemoteInput

/-! ## Streams of lines -/

namespace LineEnd

/-- The bytes of some lines that are ended this way. -/
def stream (lineEnd : LineEnd) (lines : List String) : List UInt8 :=
  lines.flatMap lineEnd.wire

/-- The lines are received up to the first that is too long. -/
theorem framing_stream {lines : List String} (unbroken : ∀ line ∈ lines, Unbroken line)
    (lineEnd : LineEnd) (limit : Nat) :
    framing limit (lineEnd.stream lines) =
      (lines.takeWhile (lineEnd.fits limit)).map .line ++
        [if lines.all (lineEnd.fits limit) then
          .endOfStream
        else
          .failed (.lineTooLong limit)] := by
  induction lines with
  | nil => exact framing_nil limit
  | cons line rest induction =>
      have first := unbroken line List.mem_cons_self
      have others := induction fun other member =>
        unbroken other (List.mem_cons_of_mem line member)
      have bytes : lineEnd.stream (line :: rest) = lineEnd.wire line ++ lineEnd.stream rest :=
        List.flatMap_cons
      rw [bytes, framing_wire first lineEnd, others]
      cases fits : lineEnd.fits limit line with
      | true => simp [fits]
      | false => simp [fits]

theorem framing_stream_of_fits {lines : List String} {lineEnd : LineEnd} {limit : Nat}
    (unbroken : ∀ line ∈ lines, Unbroken line)
    (fits : ∀ line ∈ lines, lineEnd.fits limit line = true) :
    framing limit (lineEnd.stream lines) = lines.map .line ++ [.endOfStream] := by
  rw [framing_stream unbroken, List.all_eq_true.mpr fits, if_pos rfl,
    List.takeWhile_eq_self_iff.mpr fits]

/-- The lines are received whole just if none is too long. -/
theorem framing_stream_iff {lines : List String} (unbroken : ∀ line ∈ lines, Unbroken line)
    (lineEnd : LineEnd) (limit : Nat) :
    framing limit (lineEnd.stream lines) = lines.map .line ++ [.endOfStream] ↔
      ∀ line ∈ lines, lineEnd.fits limit line = true := by
  constructor
  · intro whole
    rw [framing_stream unbroken] at whole
    have last := List.singleton_inj.mp (List.append_inj' whole rfl).2
    rw [← List.all_eq_true]
    cases all : lines.all (lineEnd.fits limit) with
    | true => rfl
    | false =>
        rw [all] at last
        cases last
  · exact framing_stream_of_fits unbroken

theorem fits_crLf (limit : Nat) :
    crLf.fits limit = fun line : String => decide (line.utf8ByteSize < limit) :=
  rfl

theorem fits_crLf_iff {limit : Nat} {line : String} :
    crLf.fits limit line = true ↔ line.utf8ByteSize < limit :=
  decide_eq_true_iff

end LineEnd

/-! ## Readers that hand out the same -/

namespace LineReader

/-- Readers that are ready to hand out the same. -/
def Alike (first second : LineReader) : Prop :=
  ∃ parts others, Ready first parts ∧ Ready second others ∧
    framing first.decoder.limit (first.pending parts) =
      framing second.decoder.limit (second.pending others)

theorem Alike.receive {first second : LineReader} (alike : Alike first second)
    (deadline : Option Nat) (moment : Moment) :
    ∃ receipt after afterToo,
      first.receive deadline moment = (receipt, after, moment) ∧
      second.receive deadline moment = (receipt, afterToo, moment) ∧
      ∀ text, receipt = .line text → Alike after afterToo := by
  obtain ⟨parts, others, ready, readyToo, same⟩ := alike
  obtain ⟨⟨receipt, after⟩, received, answers⟩ := receive_of_ready ready deadline moment
  obtain ⟨⟨receiptToo, afterToo⟩, receivedToo, answersToo⟩ :=
    receive_of_ready readyToo deadline moment
  refine ⟨receipt, after, afterToo, received, ?_⟩
  rcases answers with ⟨text, rest, isLine, goesOn, limit, framed⟩ | ⟨other, framed⟩
  · rcases answersToo with ⟨textToo, restToo, isLineToo, goesOnToo, limitToo, framedToo⟩ |
      ⟨otherToo, framedToo⟩
    · rw [framed, framedToo, ← limit, ← limitToo, List.cons.injEq] at same
      dsimp only at isLine isLineToo
      subst isLine
      subst isLineToo
      refine ⟨?_, fun _ _ => ⟨rest, restToo, goesOn, goesOnToo, same.2⟩⟩
      rw [receivedToo, same.1]
    · rw [framed, framedToo, List.cons.injEq] at same
      exact absurd same.1.symm (otherToo text)
  · rcases answersToo with ⟨textToo, restToo, isLineToo, goesOnToo, limitToo, framedToo⟩ |
      ⟨otherToo, framedToo⟩
    · rw [framed, framedToo, List.cons.injEq] at same
      exact absurd same.1 (other textToo)
    · rw [framed, framedToo, List.singleton_inj] at same
      refine ⟨?_, fun text isLine => absurd isLine (other text)⟩
      rw [receivedToo, ← same]

end LineReader

/-! ## Sessions with readers that are alike -/

namespace Session

variable {σ : Type}

/-- Turns that come to the same, with readers that will hand out the same. -/
inductive Turn.Alike : Turn σ → Turn σ → Prop where
  | served {reader readerToo : LineReader} (alike : reader.Alike readerToo)
      (writer : LineWriter) (console : Console σ) :
      Alike (.served { reader, writer } console)
        (.served { reader := readerToo, writer } console)
  | ended (outcome : SessionOutcome) (reader readerToo : LineReader)
      (writer : LineWriter) (console : Console σ) :
      Alike (.ended outcome { reader, writer } console)
        (.ended outcome { reader := readerToo, writer } console)

/-- Ends of a session that differ in nothing but their readers. -/
structure SameEnd (one other : SessionOutcome × LineChannel × Console σ) : Prop where
  outcome : one.1 = other.1
  writer : one.2.1.writer = other.2.1.writer
  console : one.2.2 = other.2.2

private theorem SameEnd.finish {one other : SessionOutcome × LineChannel × Console σ}
    (same : SameEnd one other) (id : String) :
    SameEnd (finish id one.1 one.2.1 one.2.2) (finish id other.1 other.2.1 other.2.2) := by
  rw [← same.outcome, ← same.console]
  cases one.1 with
  | clean reason =>
      rw [finish_clean, finish_clean]
      dsimp only
      split
      · exact ⟨rfl, same.writer, rfl⟩
      · exact ⟨rfl, congrArg (·.close.2) same.writer, rfl⟩
  | fatal error => exact ⟨rfl, same.writer, rfl⟩
  | waiting => exact ⟨rfl, same.writer, rfl⟩

variable [Device σ]

private theorem alike_answer {reader readerToo : LineReader}
    (alike : reader.Alike readerToo) (line : String) (writer : LineWriter)
    (console : Console σ) :
    Turn.Alike (answer line { reader, writer } console)
      (answer line { reader := readerToo, writer } console) := by
  unfold answer
  cases (Console.dispatch line).run console with
  | mk result later =>
      cases result with
      | error interruption =>
          cases interruption
          exact .ended _ _ _ _ _
      | ok reply =>
          dsimp only
          split
          · exact .ended _ _ _ _ _
          · cases writer.send reply.render with
            | mk sending writer =>
                cases sending with
                | error error => exact .ended _ _ _ _ _
                | ok => exact .served alike _ _

private theorem alike_turn {reader readerToo : LineReader}
    (alike : reader.Alike readerToo) (writer : LineWriter) (console : Console σ) :
    Turn.Alike (turn { reader, writer } console)
      (turn { reader := readerToo, writer } console) := by
  obtain ⟨receipt, after, afterToo, received, receivedToo, goesOn⟩ :=
    alike.receive console.catchUp.deadline console.catchUp.toMoment
  unfold turn
  dsimp only
  rw [received, receivedToo]
  split
  · exact .ended _ _ _ _ _
  · cases receipt with
    | line line => exact alike_answer (goesOn line rfl) _ _ _
    | endOfStream => exact .ended _ _ _ _ _
    | failed error => exact .ended _ _ _ _ _
    | overdue => exact .ended _ _ _ _ _
    | silent => exact .ended _ _ _ _ _

private theorem sameEnd_serve (channel : LineChannel) (console : Console σ)
    {readerToo : LineReader} (alike : channel.reader.Alike readerToo) :
    SameEnd (serve channel console)
      (serve { channel with reader := readerToo } console) := by
  fun_induction serve channel console generalizing readerToo with
  | case1 channel console outcome final last turned =>
      have turns := alike_turn alike channel.writer console
      generalize turnedToo : turn { channel with reader := readerToo } console = other at turns
      rw [turned] at turns
      cases turns with
      | ended =>
          rw [serve_of_ended turnedToo]
          exact ⟨rfl, rfl, rfl⟩
  | case2 channel console middle later turned induction =>
      have turns := alike_turn alike channel.writer console
      generalize turnedToo : turn { channel with reader := readerToo } console = other at turns
      rw [turned] at turns
      cases turns with
      | served goesOn writer _ =>
          rw [serve_of_served turnedToo]
          exact induction goesOn

/-- Sessions with readers that hand out the same come to the same. -/
theorem sameEnd_run {reader readerToo : LineReader} (alike : reader.Alike readerToo)
    (id : String) (powerOn : Bool) (writer : LineWriter) (console : Console σ) :
    SameEnd (run id powerOn { reader, writer } console)
      (run id powerOn { reader := readerToo, writer } console) := by
  unfold run
  cases begin id powerOn console with
  | mk awake opened =>
      cases awake with
      | true =>
          have served := sameEnd_serve { reader, writer } opened alike
          exact served.finish id
      | false =>
          have stoppedEarly : SameEnd
              (stopped opened, { reader, writer }, opened)
              (stopped opened, { reader := readerToo, writer }, opened) :=
            ⟨rfl, rfl, rfl⟩
          exact stoppedEarly.finish id

/-- Lines that have no more bytes than a line may have are received whole from a
peer that ends them in line feeds.  From one that puts carriage returns before
the line feeds they are received up to the first that has all the bytes a line
may have, so the two receive the same just if there is no such line; and then a
session serves both in the same way. -/
theorem crLf_is_received_as_lf {limit : Nat} {lines : List String}
    {parts others : List (List UInt8)} (unbroken : ∀ line ∈ lines, Unbroken line)
    (short : ∀ line ∈ lines, line.utf8ByteSize ≤ limit)
    (nonempty : ∀ part ∈ parts, part ≠ []) (nonemptyToo : ∀ part ∈ others, part ≠ [])
    (lf : parts.flatten = LineEnd.lf.stream lines)
    (crLf : others.flatten = LineEnd.crLf.stream lines) (moment : Moment) :
    let reader := LineReader.start limit (parts.map .bytes)
    let readerToo := LineReader.start limit (others.map .bytes)
    reader.receipts moment = lines.map .line ++ [.endOfStream] ∧
    readerToo.receipts moment =
      (lines.takeWhile fun line => line.utf8ByteSize < limit).map .line ++
        [if lines.all fun line => line.utf8ByteSize < limit then
          .endOfStream
        else
          .failed (.lineTooLong limit)] ∧
    (readerToo.receipts moment = reader.receipts moment ↔
      ∀ line ∈ lines, line.utf8ByteSize < limit) ∧
    ((∀ line ∈ lines, line.utf8ByteSize < limit) →
      ∀ (id : String) (powerOn : Bool) (writer : LineWriter) (console : Console σ),
        SameEnd (run id powerOn { reader, writer } console)
          (run id powerOn { reader := readerToo, writer } console)) := by
  intro reader readerToo
  have fits : ∀ line ∈ lines, LineEnd.lf.fits limit line = true := by
    intro line member
    exact decide_eq_true (short line member)
  have framed := LineEnd.framing_stream_of_fits unbroken fits
  have received : reader.receipts moment = framing limit (LineEnd.lf.stream lines) := by
    rw [← lf]
    exact LineReader.receipts_eq_framing limit nonempty moment
  have receivedToo : readerToo.receipts moment =
      framing limit (LineEnd.crLf.stream lines) := by
    rw [← crLf]
    exact LineReader.receipts_eq_framing limit nonemptyToo moment
  have whole := LineEnd.framing_stream_iff unbroken .crLf limit
  simp only [LineEnd.fits_crLf_iff] at whole
  refine ⟨?_, ?_, ?_, ?_⟩
  · rw [received, framed]
  · rw [receivedToo, LineEnd.framing_stream unbroken, LineEnd.fits_crLf]
  · rw [received, receivedToo, framed]
    exact whole
  · intro shorter id powerOn writer console
    have alike : reader.Alike readerToo := by
      refine ⟨parts, others, LineReader.ready_start limit nonempty,
        LineReader.ready_start limit nonemptyToo, ?_⟩
      change framing limit parts.flatten = framing limit others.flatten
      rw [lf, crLf, framed]
      exact (whole.mpr shorter).symm
    exact sameEnd_run alike id powerOn writer console

theorem crLf_is_received_as_lf_of_full_line :
    let parts := [[0x50, 0x49, 0x4E], [0x47, 0x0A], [0x50, 0x49, 0x4E, 0x47, 0x53, 0x0A]]
    let others := [[0x50, 0x49, 0x4E, 0x47, 0x0D], [0x0A, 0x50],
      [0x49, 0x4E, 0x47, 0x53, 0x0D, 0x0A]]
    let reader := LineReader.start 5 (parts.map .bytes)
    let readerToo := LineReader.start 5 (others.map .bytes)
    parts.flatten = LineEnd.lf.stream ["PING", "PINGS"] ∧
      others.flatten = LineEnd.crLf.stream ["PING", "PINGS"] ∧
      reader.receipts .start = [.line "PING", .line "PINGS", .endOfStream] ∧
      readerToo.receipts .start = [.line "PING", .failed (.lineTooLong 5)] := by
  intro parts others reader readerToo
  have lf : parts.flatten = LineEnd.lf.stream ["PING", "PINGS"] := by decide
  have crLf : others.flatten = LineEnd.crLf.stream ["PING", "PINGS"] := by decide
  have received := @crLf_is_received_as_lf InMemoryDevice _ 5 ["PING", "PINGS"] parts others
    (by decide) (by decide) (by decide) (by decide) lf crLf .start
  exact ⟨lf, crLf, received.1, received.2.1⟩

/-- The two are not received the same if a line has all the bytes it may have. -/
theorem full_line_with_crLf_is_too_long :
    let reader := LineReader.start 4 [.bytes (LineEnd.lf.stream ["PING"])]
    let readerToo := LineReader.start 4 [.bytes (LineEnd.crLf.stream ["PING"])]
    let console : Console InMemoryDevice := .start .primary {} {}
    "PING".utf8ByteSize ≤ 4 ∧ Unbroken "PING" ∧
      reader.receipts .start = [.line "PING", .endOfStream] ∧
      readerToo.receipts .start = [.failed (.lineTooLong 4)] ∧
      (run "a" false { reader, writer := .start .perfect } console).1 = .clean .endOfStream ∧
      (run "a" false { reader := readerToo, writer := .start .perfect } console).1 =
        .fatal (.lineTooLong 4) := by
  decide +kernel

end Session

end RemoteInput
