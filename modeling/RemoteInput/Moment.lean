/-!
# Moments

Time passes only in waits.  All other work is done at one instant, in steps,
and what becomes due at that instant is not seen between two steps: it is seen
in a pause.  Every wait that takes time is a pause, and so is every step that
follows 128 steps without one.

A wait for nothing is a step.  A wait that takes time begins the count anew,
and its end is the first step.
-/

namespace RemoteInput

/-- Where work has got to. -/
structure Moment where
  /-- Milliseconds since the beginning. -/
  clock : Nat
  /-- The steps taken since the last pause. -/
  steps : Nat
  deriving DecidableEq, Repr

namespace Moment

/-- The beginning. -/
def start : Moment := { clock := 0, steps := 0 }

/-- The most steps that are taken without a pause. -/
def stride : Nat := 128

/-- The next step comes after a pause. -/
def isSpent (moment : Moment) : Bool :=
  stride ≤ moment.steps

/-- Makes a pause. -/
def rest (moment : Moment) : Moment :=
  { moment with steps := 0 }

/-- Takes a step. -/
def step (moment : Moment) : Moment :=
  { moment with steps := moment.steps + 1 }

/-- A deadline has come. -/
def reaches (moment : Moment) (deadline : Option Nat) : Bool :=
  deadline.any (· ≤ moment.clock)

/-- Waits.  If a deadline cuts the wait short, the answer is the part of the
wait that is left, with the moment of the cut.  A wait that ends at its deadline
is not cut. -/
def wait (deadline : Option Nat) (duration : Nat) (moment : Moment) :
    Except (Nat × Moment) Moment :=
  let finish := moment.clock + duration
  if duration = 0 then
    if !moment.isSpent then
      .ok moment.step
    else if moment.reaches deadline then
      .error (0, moment.rest)
    else
      .ok moment.rest.step
  else
    match deadline with
    | none => .ok { clock := finish, steps := 1 }
    | some limit =>
        if limit < finish then
          let cut := max limit moment.clock
          .error (finish - cut, { clock := cut, steps := 0 })
        else
          .ok { clock := finish, steps := 1 }

/-- A cut wait has met its deadline, and the clock has not run backwards. -/
theorem reaches_of_wait_error {deadline : Option Nat} {duration left : Nat}
    {moment after : Moment}
    (cut : moment.wait deadline duration = .error (left, after)) :
    after.reaches deadline = true ∧ moment.clock ≤ after.clock := by
  unfold wait at cut
  dsimp only at cut
  split at cut
  · split at cut
    · simp at cut
    · split at cut
      next reached =>
        simp only [Except.error.injEq, Prod.mk.injEq] at cut
        obtain ⟨-, rfl⟩ := cut
        exact ⟨reached, Nat.le_refl _⟩
      next => simp at cut
  · split at cut
    · simp at cut
    · split at cut
      · simp only [Except.error.injEq, Prod.mk.injEq] at cut
        obtain ⟨-, rfl⟩ := cut
        simp only [reaches, Option.any_some, decide_eq_true_eq]
        omega
      · simp at cut

/-- A wait that is not cut takes exactly its time. -/
theorem clock_of_wait_ok {deadline : Option Nat} {duration : Nat} {moment after : Moment}
    (waited : moment.wait deadline duration = .ok after) :
    after.clock = moment.clock + duration := by
  unfold wait at waited
  dsimp only at waited
  split at waited
  · split at waited
    · simp only [Except.ok.injEq] at waited
      subst waited
      simp_all [step]
    · split at waited
      · simp at waited
      · simp only [Except.ok.injEq] at waited
        subst waited
        simp_all [step, rest]
  · split at waited
    · simp only [Except.ok.injEq] at waited
      subst waited
      rfl
    · split at waited
      · simp at waited
      · simp only [Except.ok.injEq] at waited
        subst waited
        rfl

/-- A wait that takes time is cut just if its deadline comes before its end. -/
theorem wait_eq_ok_iff {deadline : Option Nat} {duration : Nat} {moment : Moment}
    (positive : 0 < duration) :
    (∃ after, moment.wait deadline duration = .ok after) ↔
      deadline.any (· < moment.clock + duration) = false := by
  have takesTime : ¬ duration = 0 := Nat.ne_of_gt positive
  unfold wait
  cases deadline with
  | none => simp [takesTime]
  | some limit =>
      by_cases early : limit < moment.clock + duration
      · simp [takesTime, early]
      · simp [takesTime, early]

end Moment

end RemoteInput
