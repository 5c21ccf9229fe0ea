import RemoteInput.Stream.LineWriter

/-!
# What a line writer hands over

`Advances` says that a writer comes from another by writing alone: the bytes
that were handed over and those that are still to go are together what they
were, and none that was handed over is taken back.  Draining and flushing
advance a writer, and a line that is sent adds its wire form at the end.

A writer is settled if nothing is left to go.  Sending a line from a settled
writer hands over the whole wire form, or an initial part of it and fails.
-/

namespace RemoteInput

/-- A write side whose calls may be short but never fail. -/
structure Sink.Reliable (sink : Sink) : Prop where
  write : ∀ call, ∃ most, sink.write call = .takes (most + 1)
  flush : ∀ call, sink.flush call = none

namespace LineWriter

/-- A writer that comes from another by writing. -/
structure Advances (before after : LineWriter) : Prop where
  sink : after.sink = before.sink
  shutdowns : after.shutdowns = before.shutdowns
  closed : after.closed = before.closed
  bytes : after.taken.toList ++ after.unsent = before.taken.toList ++ before.unsent
  grows : before.taken.toList <+: after.taken.toList

theorem Advances.refl (writer : LineWriter) : Advances writer writer :=
  ⟨rfl, rfl, rfl, rfl, List.prefix_rfl⟩

theorem Advances.trans {first middle last : LineWriter}
    (left : Advances first middle) (right : Advances middle last) :
    Advances first last := by
  constructor
  · rw [right.sink, left.sink]
  · rw [right.shutdowns, left.shutdowns]
  · rw [right.closed, left.closed]
  · rw [right.bytes, left.bytes]
  · exact left.grows.trans right.grows

theorem advances_drain (writer : LineWriter) :
    Advances writer writer.drain.2 ∧
      (writer.drain.1 = .ok () → writer.drain.2.unsent = []) := by
  fun_induction drain writer with
  | case1 writer empty =>
      exact ⟨.refl writer, fun _ => List.isEmpty_iff.mp empty⟩
  | case2 writer pending failure answered =>
      exact ⟨⟨rfl, rfl, rfl, rfl, List.prefix_rfl⟩, nofun⟩
  | case3 writer pending answered =>
      exact ⟨⟨rfl, rfl, rfl, rfl, List.prefix_rfl⟩, nofun⟩
  | case4 writer pending most answered induction =>
      refine ⟨Advances.trans ?_ induction.1, induction.2⟩
      constructor
      · rfl
      · rfl
      · rfl
      · simp [List.take_append_drop]
      · simp

theorem advances_flush (writer : LineWriter) :
    Advances writer writer.flush.2 ∧
      (writer.flush.1 = .ok () → writer.flush.2.unsent = []) := by
  obtain ⟨advances, settles⟩ := advances_drain writer
  unfold flush
  cases drained : writer.drain with
  | mk result after =>
      rw [drained] at advances settles
      cases result with
      | error failure => exact ⟨advances, nofun⟩
      | ok =>
          have counted : Advances writer
              { after with flushes := after.flushes + 1 } :=
            ⟨advances.sink, advances.shutdowns, advances.closed, advances.bytes,
              advances.grows⟩
          dsimp only
          cases after.sink.flush after.flushes with
          | some failure => exact ⟨counted, nofun⟩
          | none => exact ⟨counted, fun _ => settles rfl⟩

theorem flush_eq_ok {writer : LineWriter} (reliable : writer.sink.Reliable) :
    writer.flush.1 = .ok () := by
  have drains : writer.drain.1 = .ok () := by
    fun_induction drain writer with
    | case1 => rfl
    | case2 writer pending failure answered =>
        obtain ⟨most, takes⟩ := reliable.write writer.writes
        simp [answered] at takes
    | case3 writer pending answered =>
        obtain ⟨most, takes⟩ := reliable.write writer.writes
        simp [answered] at takes
    | case4 writer pending most answered induction => exact induction reliable
  have sink := (advances_drain writer).1.sink
  unfold flush
  cases drained : writer.drain with
  | mk result after =>
      rw [drained] at drains sink
      dsimp only at drains sink
      subst drains
      dsimp only
      rw [sink, reliable.flush]

/-- The line that a settled writer sends is all that it has to hand over. -/
private theorem send_of_settled {writer : LineWriter} (settled : writer.unsent = [])
    (line : String) :
    writer.send line =
      ((flush { writer with unsent := wire line }).1.mapError .ofFailure,
        (flush { writer with unsent := wire line }).2) := by
  unfold send makeRoom
  simp [settled, fullAt]

theorem advances_send {writer : LineWriter} (settled : writer.unsent = [])
    (line : String) :
    Advances { writer with unsent := wire line } (writer.send line).2 := by
  rw [send_of_settled settled]
  exact (advances_flush _).1

/-- A line that is sent has gone out whole. -/
theorem taken_of_send_ok {writer after : LineWriter} {line : String}
    (settled : writer.unsent = []) (sent : writer.send line = (.ok (), after)) :
    after.unsent = [] ∧
      after.taken.toList = writer.taken.toList ++ wire line := by
  have advances := advances_send settled line
  have settles := (advances_flush { writer with unsent := wire line }).2
  rw [send_of_settled settled, Prod.mk.injEq] at sent
  obtain ⟨succeeded, rfl⟩ := sent
  rw [send_of_settled settled] at advances
  cases flushed : (flush { writer with unsent := wire line }).1 with
  | error failure =>
      rw [flushed] at succeeded
      cases succeeded
  | ok =>
      have nothingLeft := settles flushed
      refine ⟨nothingLeft, ?_⟩
      simpa [nothingLeft] using advances.bytes

/-- A line that could not be sent may have gone out in part. -/
theorem taken_of_send_error {writer after : LineWriter} {line : String}
    {error : ChannelError} (settled : writer.unsent = [])
    (failed : writer.send line = (.error error, after)) :
    ∃ part, part <+: wire line ∧
      after.taken.toList = writer.taken.toList ++ part := by
  have advances := advances_send settled line
  rw [failed] at advances
  obtain ⟨part, grown⟩ := advances.grows
  have bytes := advances.bytes
  dsimp only at grown bytes
  rw [← grown, List.append_assoc, List.append_cancel_left_eq] at bytes
  exact ⟨part, ⟨after.unsent, bytes⟩, grown.symm⟩

/-- A reliable write side takes every line. -/
theorem send_eq_ok {writer : LineWriter} (settled : writer.unsent = [])
    (reliable : writer.sink.Reliable) (line : String) :
    (writer.send line).1 = .ok () := by
  rw [send_of_settled settled]
  dsimp only
  have flushed : (flush { writer with unsent := wire line }).1 = .ok () :=
    flush_eq_ok reliable
  rw [flushed]
  rfl

theorem flushes_drain (writer : LineWriter) : writer.drain.2.flushes = writer.flushes := by
  fun_induction drain writer with
  | case1 => rfl
  | case2 => rfl
  | case3 => rfl
  | case4 writer pending most answered induction => exact induction

/-- A line that is sent is flushed once. -/
theorem flushes_of_send_ok {writer after : LineWriter} {line : String}
    (settled : writer.unsent = []) (sent : writer.send line = (.ok (), after)) :
    after.flushes = writer.flushes + 1 := by
  have counted := flushes_drain { writer with unsent := wire line }
  rw [send_of_settled settled, Prod.mk.injEq] at sent
  obtain ⟨succeeded, rfl⟩ := sent
  unfold flush at succeeded ⊢
  cases drained : drain { writer with unsent := wire line } with
  | mk result between =>
      rw [drained] at counted succeeded
      cases result with
      | error failure => cases succeeded
      | ok =>
          dsimp only at counted ⊢
          rw [← counted]
          cases between.sink.flush between.flushes with
          | some failure => rfl
          | none => rfl

/-- Closing a settled writer hands over no byte.  It is one flush and one shutdown call,
which is not made if the flush fails.  The write side is shut down if both succeed. -/
theorem close_of_settled {writer : LineWriter} (settled : writer.unsent = []) :
    writer.close.2.taken = writer.taken ∧
      (writer.close.2.shutdowns =
        writer.shutdowns + if writer.sink.flush writer.flushes = none then 1 else 0) ∧
      (writer.close.2.closed = true ↔ writer.closed = true ∨
        writer.sink.flush writer.flushes = none ∧
          writer.sink.shutdown writer.shutdowns = none) := by
  have drained : writer.drain = (.ok (), writer) := by
    rw [drain]
    simp [settled]
  unfold close flush
  rw [drained]
  dsimp only
  cases flushed : writer.sink.flush writer.flushes with
  | some failure => simp
  | none =>
      dsimp only
      cases writer.sink.shutdown writer.shutdowns with
      | some failure => simp
      | none => simp

end LineWriter

end RemoteInput
