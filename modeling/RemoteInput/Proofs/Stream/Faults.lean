import RemoteInput.Proofs.Stream.Received
import RemoteInput.Stream.LineWriter

/-!
# Failing calls on a stream

What a reader or a writer does between two moments is a number of calls on its
stream.  `faults` is how those failed that did: the reads are the events that a
stream has no longer before it, and the other calls are numbered.

A writer makes no further call after one that failed, and reports it:
`calls_send` and `calls_close`.
-/

namespace RemoteInput

/-! ## Reads -/

namespace LineReader

/-- How the reads failed that a reader has made up to a later moment. -/
def faults (before after : LineReader) : List StreamFailure :=
  let failures := before.source.filterMap ReadEvent.failure?
  failures.take (failures.length - (after.source.filterMap ReadEvent.failure?).length)

theorem faults_eq {before after : LineReader} {failures : List StreamFailure}
    (failing : before.source.filterMap ReadEvent.failure? =
      failures ++ after.source.filterMap ReadEvent.failure?) :
    before.faults after = failures := by
  unfold faults
  dsimp only
  rw [failing, List.length_append, Nat.add_sub_cancel_right, List.take_left]

theorem faults_self (reader : LineReader) : reader.faults reader = [] :=
  faults_eq rfl

end LineReader

/-! ## Writes, flushes and shutdowns -/

/-- How a write call fails, which also fails if it takes no byte. -/
def WriteAnswer.failure? : WriteAnswer → Option StreamFailure
  | .fails failure => some failure
  | .takes 0 => some .noProgress
  | .takes (_ + 1) => none

/-- How those of some numbered calls failed that did. -/
def failuresFrom (answer : Nat → Option StreamFailure) (first next : Nat) :
    List StreamFailure :=
  (List.range' first (next - first)).filterMap answer

section

variable (answer : Nat → Option StreamFailure)

theorem failuresFrom_self (first : Nat) : failuresFrom answer first first = [] := by
  unfold failuresFrom
  rw [Nat.sub_self]
  rfl

theorem failuresFrom_succ (first : Nat) :
    failuresFrom answer first (first + 1) = (answer first).toList := by
  unfold failuresFrom
  rw [Nat.add_sub_cancel_left]
  cases answered : answer first with
  | none => exact List.filterMap_cons_none answered
  | some failure => exact List.filterMap_cons_some answered

theorem failuresFrom_append {first middle next : Nat} (begins : first ≤ middle)
    (goesOn : middle ≤ next) :
    failuresFrom answer first middle ++ failuresFrom answer middle next =
      failuresFrom answer first next := by
  have follows : first + 1 * (middle - first) = middle := by omega
  have whole : middle - first + (next - middle) = next - first := by omega
  unfold failuresFrom
  rw [← List.filterMap_append, ← whole, ← List.range'_append, follows]

end

namespace LineWriter

/-- How the calls failed that a writer has made up to a later moment. -/
def faults (before after : LineWriter) : List StreamFailure :=
  failuresFrom (fun call => (before.sink.write call).failure?) before.writes after.writes ++
    failuresFrom before.sink.flush before.flushes after.flushes ++
    failuresFrom before.sink.shutdown before.shutdowns after.shutdowns

/-- A writer has made calls, and this is how those failed that did. -/
structure Calls (before after : LineWriter) (failures : List StreamFailure) : Prop where
  sink : after.sink = before.sink
  writes : before.writes ≤ after.writes
  flushes : before.flushes ≤ after.flushes
  shutdowns : before.shutdowns ≤ after.shutdowns
  faults : before.faults after = failures

/-- No call was made, whatever became of the bytes. -/
theorem Calls.none (writer : LineWriter) (unsent : List UInt8) :
    Calls writer { writer with unsent } [] := by
  refine ⟨rfl, Nat.le_refl _, Nat.le_refl _, Nat.le_refl _, ?_⟩
  unfold LineWriter.faults
  rw [failuresFrom_self, failuresFrom_self, failuresFrom_self]
  rfl

theorem faults_self (writer : LineWriter) : writer.faults writer = [] :=
  (Calls.none writer writer.unsent).faults

theorem Calls.trans {before middle after : LineWriter} {failures : List StreamFailure}
    (succeed : Calls before middle []) (calls : Calls middle after failures) :
    Calls before after failures := by
  refine ⟨calls.sink.trans succeed.sink, Nat.le_trans succeed.writes calls.writes,
    Nat.le_trans succeed.flushes calls.flushes,
    Nat.le_trans succeed.shutdowns calls.shutdowns, ?_⟩
  have nothing := succeed.faults
  have faults := calls.faults
  unfold LineWriter.faults at nothing faults ⊢
  simp only [List.append_eq_nil_iff] at nothing
  obtain ⟨⟨written, flushed⟩, shut⟩ := nothing
  rw [succeed.sink] at faults
  rw [← failuresFrom_append _ succeed.writes calls.writes,
    ← failuresFrom_append _ succeed.flushes calls.flushes,
    ← failuresFrom_append _ succeed.shutdowns calls.shutdowns, written, flushed, shut]
  exact faults

theorem calls_write (writer : LineWriter) (unsent : List UInt8) (taken : Array UInt8) :
    Calls writer { writer with writes := writer.writes + 1, unsent, taken }
      (writer.sink.write writer.writes).failure?.toList := by
  refine ⟨rfl, Nat.le_succ _, Nat.le_refl _, Nat.le_refl _, ?_⟩
  unfold LineWriter.faults
  rw [failuresFrom_succ, failuresFrom_self, failuresFrom_self, List.append_nil,
    List.append_nil]

theorem calls_flushing (writer : LineWriter) :
    Calls writer { writer with flushes := writer.flushes + 1 }
      (writer.sink.flush writer.flushes).toList := by
  refine ⟨rfl, Nat.le_refl _, Nat.le_succ _, Nat.le_refl _, ?_⟩
  unfold LineWriter.faults
  rw [failuresFrom_succ, failuresFrom_self, failuresFrom_self, List.append_nil,
    List.nil_append]

theorem calls_shutdown (writer : LineWriter) (closed : Bool) :
    Calls writer { writer with shutdowns := writer.shutdowns + 1, closed }
      (writer.sink.shutdown writer.shutdowns).toList := by
  refine ⟨rfl, Nat.le_refl _, Nat.le_refl _, Nat.le_succ _, ?_⟩
  unfold LineWriter.faults
  rw [failuresFrom_succ, failuresFrom_self, failuresFrom_self, List.nil_append]
  rfl

/-- The failures that a result tells of. -/
def failuresOf : Except StreamFailure Unit → List StreamFailure
  | .error failure => [failure]
  | .ok () => []

theorem calls_drain (writer : LineWriter) :
    Calls writer writer.drain.2 (failuresOf writer.drain.1) := by
  fun_induction drain writer with
  | case1 writer empty => exact .none writer writer.unsent
  | case2 writer pending failure answered =>
      have calls := calls_write writer writer.unsent writer.taken
      rw [answered] at calls
      exact calls
  | case3 writer pending answered =>
      have calls := calls_write writer writer.unsent writer.taken
      rw [answered] at calls
      exact calls
  | case4 writer pending most answered induction =>
      have calls := calls_write writer (writer.unsent.drop (most + 1))
        (writer.taken ++ writer.unsent.take (most + 1))
      rw [answered] at calls
      exact calls.trans induction

theorem calls_flush (writer : LineWriter) :
    Calls writer writer.flush.2 (failuresOf writer.flush.1) := by
  have drained := calls_drain writer
  unfold flush
  cases result : writer.drain with
  | mk answer after =>
      rw [result] at drained
      cases answer with
      | error failure => exact drained
      | ok =>
          have flushed := calls_flushing after
          dsimp only
          cases answered : after.sink.flush after.flushes with
          | some failure =>
              rw [answered] at flushed
              exact drained.trans flushed
          | none =>
              rw [answered] at flushed
              exact drained.trans flushed

theorem calls_makeRoom (writer : LineWriter) :
    Calls writer writer.makeRoom.2 (failuresOf writer.makeRoom.1) := by
  unfold makeRoom
  split
  · exact calls_flush writer
  · exact .none writer writer.unsent

/-- Sending a line reports the call that failed. -/
theorem calls_send (writer : LineWriter) (line : String) :
    ∃ result, (writer.send line).1 = result.mapError .ofFailure ∧
      Calls writer (writer.send line).2 (failuresOf result) := by
  have made := calls_makeRoom writer
  unfold send
  cases room : writer.makeRoom with
  | mk answer after =>
      rw [room] at made
      cases answer with
      | error failure => exact ⟨.error failure, rfl, made⟩
      | ok =>
          have joined := Calls.none after (after.unsent ++ wire line)
          have flushed := calls_flush { after with unsent := after.unsent ++ wire line }
          exact ⟨_, rfl, (made.trans joined).trans flushed⟩

/-- Closing reports the call that failed. -/
theorem calls_close (writer : LineWriter) :
    ∃ result, writer.close.1 = result.mapError .ofFailure ∧
      Calls writer writer.close.2 (failuresOf result) := by
  have flushed := calls_flush writer
  unfold close
  cases result : writer.flush with
  | mk answer after =>
      rw [result] at flushed
      cases answer with
      | error failure => exact ⟨.error failure, rfl, flushed⟩
      | ok =>
          dsimp only
          cases answered : after.sink.shutdown after.shutdowns with
          | some failure =>
              have shut := calls_shutdown after after.closed
              rw [answered] at shut
              exact ⟨.error failure, rfl, flushed.trans shut⟩
          | none =>
              have shut := calls_shutdown after true
              rw [answered] at shut
              exact ⟨.ok (), rfl, flushed.trans shut⟩

end LineWriter

end RemoteInput
