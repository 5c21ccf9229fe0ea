import RemoteInput.Stream.LineReader

/-!
# Receiving line after line

`receipts` asks a line reader for lines until the first answer that is no line,
and waits for each as long as it takes.  What a reader hands out does not depend
on the moment at which it is asked, and a deadline only matters if it comes
first: `receive_eq_of_ne_overdue`, `reaches_of_overdue`.  The clock never runs
backwards meanwhile: `clock_le_receive`.
-/

namespace RemoteInput

namespace LineReader

/-- The answers of a reader up to the first that is no line. -/
def receipts (reader : LineReader) (moment : Moment) : List Receipt :=
  match _received : reader.receive none moment with
  | (.line text, reader, moment) => .line text :: receipts reader moment
  | (receipt, _, _) => [receipt]
termination_by reader.remaining
decreasing_by exact remaining_receive_lt _received

theorem receipts_of_line {reader after : LineReader} {moment final : Moment}
    {text : String}
    (received : reader.receive none moment = (.line text, after, final)) :
    reader.receipts moment = .line text :: after.receipts final := by
  rw [receipts]
  split
  · next found =>
    rw [received] at found
    cases found
    rfl
  · next other found =>
    rw [received] at found
    exact (other text (congrArg Prod.fst found).symm).elim

theorem receipts_of_other {reader after : LineReader} {moment final : Moment}
    {receipt : Receipt} (other : ∀ text, receipt ≠ .line text)
    (received : reader.receive none moment = (receipt, after, final)) :
    reader.receipts moment = [receipt] := by
  rw [receipts]
  split
  · next found =>
    rw [received] at found
    cases found
    exact absurd rfl (other _)
  · next found =>
    rw [received] at found
    cases found
    rfl

/-- Without a deadline every wait comes to its end. -/
private theorem wait_none (moment : Moment) (duration : Nat) :
    ∃ after, moment.wait none duration = .ok after := by
  unfold Moment.wait Moment.reaches
  by_cases zero : duration = 0
  · by_cases spent : moment.isSpent = true
    · simp [zero, spent]
    · simp [zero, spent]
  · simp [zero]

private theorem fetch_eq_of_ne_overdue {deadline : Option Nat} {source : List ReadEvent}
    {reader after : LineReader} {moment final : Moment} {receipt : Receipt}
    (inTime : receipt ≠ .overdue)
    (fetched : fetch deadline reader moment source = (receipt, after, final))
    (start : Moment) :
    ∃ later, fetch none reader start source = (receipt, after, later) := by
  fun_induction fetch deadline reader moment source generalizing start with
  | case1 reader moment prepared found left ended =>
      cases fetched
      exact ⟨start, by rw [fetch, ended]⟩
  | case2 reader moment prepared rest found left ended =>
      cases fetched
      exact ⟨start, by rw [fetch, ended]⟩
  | case3 reader moment prepared first more rest others source kept found left taken =>
      cases fetched
      exact ⟨start, by rw [fetch, taken]⟩
  | case4 reader moment prepared first more rest others source kept nothing induction =>
      obtain ⟨later, same⟩ := induction fetched start
      exact ⟨later, by rw [fetch, nothing, same]⟩
  | case5 reader moment prepared failure rest found left failed =>
      cases fetched
      exact ⟨start, by rw [fetch, failed]⟩
  | case6 reader moment prepared duration rest waited _ induction =>
      obtain ⟨ready, passed⟩ := wait_none start duration
      obtain ⟨later, same⟩ := induction fetched ready
      exact ⟨later, by rw [fetch, passed]; exact same⟩
  | case7 =>
      simp only [Prod.mk.injEq] at fetched
      exact absurd fetched.1.symm inTime
  | case8 =>
      simp only [Prod.mk.injEq] at fetched
      exact absurd fetched.1.symm inTime
  | case9 reader moment prepared rest silent =>
      simp only [Prod.mk.injEq] at fetched
      obtain ⟨rfl, rfl, rfl⟩ := fetched
      exact ⟨start, by rw [fetch]⟩

/-- An answer that came in time is the one that comes without a deadline, asked
for at any moment. -/
theorem receive_eq_of_ne_overdue {deadline : Option Nat} {reader after : LineReader}
    {moment final : Moment} {receipt : Receipt} (inTime : receipt ≠ .overdue)
    (received : reader.receive deadline moment = (receipt, after, final))
    (start : Moment) :
    ∃ later, reader.receive none start = (receipt, after, later) := by
  unfold receive at received ⊢
  by_cases failed : reader.failed = true
  · rw [if_pos failed] at received ⊢
    cases received
    exact ⟨start, rfl⟩
  · rw [if_neg failed] at received ⊢
    by_cases readable : reader.readable = true
    · rw [if_pos readable] at received ⊢
      by_cases ended : reader.ended = true
      · rw [if_pos ended] at received ⊢
        cases received
        exact ⟨start, rfl⟩
      · rw [if_neg ended] at received ⊢
        cases taken : reader.take? with
        | some answer =>
            rw [taken] at received
            cases received
            exact ⟨start, rfl⟩
        | none =>
            rw [taken] at received
            exact fetch_eq_of_ne_overdue inTime received start
    · rw [if_neg readable] at received ⊢
      exact fetch_eq_of_ne_overdue inTime received start

theorem receipts_of_receive_line {deadline : Option Nat} {reader after : LineReader}
    {moment final : Moment} {text : String}
    (received : reader.receive deadline moment = (.line text, after, final))
    (start : Moment) :
    ∃ later, reader.receipts start = .line text :: after.receipts later := by
  obtain ⟨later, same⟩ := receive_eq_of_ne_overdue (by simp) received start
  exact ⟨later, receipts_of_line same⟩

theorem receipts_of_receive_other {deadline : Option Nat} {reader after : LineReader}
    {moment final : Moment} {receipt : Receipt}
    (other : ∀ text, receipt ≠ .line text) (inTime : receipt ≠ .overdue)
    (received : reader.receive deadline moment = (receipt, after, final))
    (start : Moment) :
    reader.receipts start = [receipt] := by
  obtain ⟨later, same⟩ := receive_eq_of_ne_overdue inTime received start
  exact receipts_of_other other same

/-! ## Answers that come too late -/

private theorem inTime_handOut (reader : LineReader) (line : List UInt8) :
    (reader.handOut line).1 ≠ .overdue := by
  unfold handOut fail
  split <;> simp

private theorem inTime_of_answer? {reader after : LineReader} {decoded : Decoded}
    {receipt : Receipt}
    (answered : reader.answer? decoded = some (receipt, after)) :
    receipt ≠ .overdue := by
  cases decoded with
  | line line =>
      have inTime := inTime_handOut reader line
      rw [Option.some.inj answered] at inTime
      exact inTime
  | tooLong =>
      cases answered
      simp
  | incomplete => cases answered

private theorem inTime_finish (reader : LineReader) :
    reader.finish.1 ≠ .overdue := by
  unfold finish
  dsimp only
  cases answered : answer? { reader with decoder := reader.decoder.last.2 }
      reader.decoder.last.1 with
  | none => simp
  | some found => exact inTime_of_answer? answered

private theorem inTime_readEnd (reader : LineReader) :
    reader.readEnd.1 ≠ .overdue := by
  unfold readEnd
  split
  · simp
  · exact inTime_finish _

private theorem reaches_of_fetch {deadline : Option Nat} {source : List ReadEvent}
    {reader after : LineReader} {moment final : Moment}
    (fetched : fetch deadline reader moment source = (.overdue, after, final)) :
    final.reaches deadline = true := by
  fun_induction fetch deadline reader moment source with
  | case1 reader moment prepared found left ended =>
      have inTime := inTime_readEnd { prepared with source := [] }
      rw [ended] at inTime
      exact absurd (congrArg Prod.fst fetched) inTime
  | case2 reader moment prepared rest found left ended =>
      have inTime := inTime_readEnd { prepared with source := rest }
      rw [ended] at inTime
      exact absurd (congrArg Prod.fst fetched) inTime
  | case3 reader moment prepared first more rest others source kept found left taken =>
      exact absurd (congrArg Prod.fst fetched) (inTime_of_answer? taken)
  | case4 reader moment prepared first more rest others source kept nothing induction =>
      exact induction fetched
  | case5 reader moment prepared failure rest found left failed =>
      cases failed
      cases fetched
  | case6 reader moment prepared duration rest waited _ induction =>
      exact induction fetched
  | case7 reader moment prepared duration rest left cut waited =>
      cases fetched
      exact (Moment.reaches_of_wait_error waited).1
  | case8 reader moment prepared rest silent limit due =>
      simp only [Prod.mk.injEq] at fetched
      obtain ⟨-, -, rfl⟩ := fetched
      simp only [Moment.reaches, due, Option.any_some, decide_eq_true_eq]
      exact Nat.le_max_left limit moment.clock
  | case9 => cases fetched

/-- If the answer is that the deadline came first, then it has come. -/
theorem reaches_of_overdue {deadline : Option Nat} {reader after : LineReader}
    {moment final : Moment}
    (received : reader.receive deadline moment = (.overdue, after, final)) :
    final.reaches deadline = true := by
  unfold receive at received
  by_cases failed : reader.failed = true
  · rw [if_pos failed] at received
    cases received
  · rw [if_neg failed] at received
    by_cases readable : reader.readable = true
    · rw [if_pos readable] at received
      by_cases ended : reader.ended = true
      · rw [if_pos ended] at received
        exact absurd (congrArg Prod.fst received) (inTime_finish reader)
      · rw [if_neg ended] at received
        cases taken : reader.take? with
        | some answer =>
            rw [taken] at received
            exact absurd (congrArg Prod.fst received) (inTime_of_answer? taken)
        | none =>
            rw [taken] at received
            exact reaches_of_fetch received
    · rw [if_neg readable] at received
      exact reaches_of_fetch received

/-! ## The moment of an answer -/

private theorem clock_le_fetch (deadline : Option Nat) (reader : LineReader)
    (moment : Moment) (source : List ReadEvent) :
    moment.clock ≤ (fetch deadline reader moment source).2.2.clock := by
  fun_induction fetch deadline reader moment source with
  | case1 => exact Nat.le_refl _
  | case2 => exact Nat.le_refl _
  | case3 => exact Nat.le_refl _
  | case4 reader moment prepared first more rest others source kept nothing induction =>
      exact induction
  | case5 => exact Nat.le_refl _
  | case6 reader moment prepared duration rest waited passed induction =>
      rw [Moment.clock_of_wait_ok passed] at induction
      exact Nat.le_trans (Nat.le_add_right _ _) induction
  | case7 reader moment prepared duration rest left cut waited =>
      exact (Moment.reaches_of_wait_error waited).2
  | case8 reader moment prepared rest silent limit due =>
      exact Nat.le_max_right _ _
  | case9 => exact Nat.le_refl _

/-- Waiting for a line does not turn the clock back. -/
theorem clock_le_receive (deadline : Option Nat) (reader : LineReader) (moment : Moment) :
    moment.clock ≤ (reader.receive deadline moment).2.2.clock := by
  unfold receive
  by_cases failed : reader.failed = true
  · simp [failed]
  · rw [if_neg failed]
    by_cases readable : reader.readable = true
    · rw [if_pos readable]
      by_cases ended : reader.ended = true
      · simp [ended]
      · rw [if_neg ended]
        cases taken : reader.take? with
        | some answer => exact Nat.le_refl _
        | none => exact clock_le_fetch _ _ _ _
    · rw [if_neg readable]
      exact clock_le_fetch _ _ _ _

end LineReader

end RemoteInput
