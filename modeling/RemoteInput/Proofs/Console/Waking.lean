import RemoteInput.Proofs.Console.Calls
import RemoteInput.Proofs.Console.Swiping

/-!
# Waking the display

`Waking` lists what is asked of a device when a display is woken, and says whether
the power key was pressed.  Nothing waits while the device answers, so no time passes
but what the answers take, and nothing requests shutdown but a call: `Attends`.  A wait
follows only if the key was pressed: `wake_cases`.
-/

namespace RemoteInput

/-- The milliseconds that a device takes for some calls, one after the other. -/
def Device.elapsed {σ : Type} [Device σ] (device : σ) : List Call → Nat
  | [] => 0
  | call :: rest =>
      (Device.answer device call).elapsed + elapsed (Device.answer device call).device rest

/-- Shutdown is requested when one of some calls arrives. -/
def Device.requestsShutdown {σ : Type} [Device σ] (device : σ) : List Call → Bool
  | [] => false
  | call :: rest =>
      (Device.answer device call).requestsShutdown ||
        requestsShutdown (Device.answer device call).device rest

section

variable {σ : Type} [Device σ]

theorem Device.elapsed_append (device : σ) (earlier later : List Call) :
    Device.elapsed device (earlier ++ later) =
      Device.elapsed device earlier +
        Device.elapsed (Device.answerAll device earlier) later := by
  induction earlier generalizing device with
  | nil => exact (Nat.zero_add _).symm
  | cons call rest induction =>
      rw [List.cons_append, Device.elapsed, Device.elapsed, induction, Nat.add_assoc]
      rfl

theorem Device.requestsShutdown_append (device : σ) (earlier later : List Call) :
    Device.requestsShutdown device (earlier ++ later) =
      (Device.requestsShutdown device earlier ||
        Device.requestsShutdown (Device.answerAll device earlier) later) := by
  induction earlier generalizing device with
  | nil => exact (Bool.false_or _).symm
  | cons call rest induction =>
      rw [List.cons_append, Device.requestsShutdown, Device.requestsShutdown, induction,
        Bool.or_assoc]
      rfl

end

/-- The primary display is asked whether its screen is on, and says so. -/
def Asked.screen (isOn : Bool) : Asked :=
  { call := .screenOn .primary, answer := isOn }

/-- The power key is pressed, and the device takes it or not. -/
def Asked.power (result : Except DeviceError Unit) : Asked :=
  { call := .inject (.press .power) .primary, answer := result }

/-- What waking a display asks of a device, with the answers, and whether the device
took a press of the power key. -/
inductive Waking (enabled : Bool) (display : DisplayId) : List Asked → Bool → Prop where
  /-- Nobody wants the display to wake up, or it is no display that can. -/
  | unasked (idle : enabled = false ∨ display ≠ .primary) : Waking enabled display [] false
  /-- The screen is on already. -/
  | on (isEnabled : enabled = true) (isPrimary : display = .primary) :
      Waking enabled display [.screen true] false
  | refused (isEnabled : enabled = true) (isPrimary : display = .primary)
      (error : DeviceError) :
      Waking enabled display [.screen false, .power (.error error)] false
  | pressed (isEnabled : enabled = true) (isPrimary : display = .primary) :
      Waking enabled display [.screen false, .power (.ok ())] true

private theorem asked_screen {display : DisplayId} (isPrimary : display = .primary)
    (isOn : Bool) : ({ call := .screenOn display, answer := isOn } : Asked) = .screen isOn := by
  rw [isPrimary]
  rfl

private theorem asked_power {display : DisplayId} (isPrimary : display = .primary)
    (result : Except DeviceError Unit) :
    ({ call := .inject (.press .power) display, answer := result } : Asked) = .power result := by
  rw [isPrimary]
  rfl

namespace Console

variable {σ : Type}

theorem requestShutdown_eq (console : Console σ) :
    console.requestShutdown = { console with
      shutdown := { console.shutdown with requested := true }
      journal := console.requestShutdown.journal } := by
  unfold requestShutdown
  split
  · next requested => rw [← requested]
  · rfl

theorem expire_eq (console : Console σ) :
    console.expire = { console with
      shutdown := { console.shutdown with requested := console.expire.shutdown.requested }
      watch := console.expire.watch
      journal := console.expire.journal } := by
  unfold expire
  split
  · rfl
  · split
    · rw [requestShutdown_eq]
    · rfl

/-- What comes of the wait that gives the display time to wake up. -/
def awaited (console : Console σ) : Except Interruption Bool × Console σ :=
  (if (console.slept wakeTime).1 then .ok true else .error .shutdown,
    (console.slept wakeTime).2)

private theorem run_awaited (console : Console σ) :
    (sleep wakeTime >>= fun wholly =>
      if wholly then pure (.ok true) else pure (.error .shutdown) :
        Act σ (Except Interruption Bool)).run console = console.awaited := by
  have slept : (sleep wakeTime).run console = console.slept wakeTime := rfl
  unfold awaited
  rw [StateT.run_bind, slept]
  cases console.slept wakeTime with
  | mk wholly later => cases wholly <;> rfl

variable [Device σ]

/-- A console after some calls to its device, but for its journal. -/
def attended (console : Console σ) (asked : List Call) : Console σ :=
  { console with
    clock := console.clock + Device.elapsed console.device asked
    device := Device.answerAll console.device asked
    shutdown := { console.shutdown with
      requested := console.shutdown.requested ||
        Device.requestsShutdown console.device asked } }

@[simp]
theorem attended_nil (console : Console σ) : console.attended [] = console := by
  simp [attended, Device.elapsed, Device.requestsShutdown, Device.answerAll]

theorem attended_append (console : Console σ) (earlier later : List Call) :
    console.attended (earlier ++ later) = (console.attended earlier).attended later := by
  simp [attended, Device.elapsed_append, Device.requestsShutdown_append, Device.answerAll,
    Nat.add_assoc, Bool.or_assoc]

/-- A console that comes from another by asking the device, without a wait. -/
structure Attends (before : Console σ) (asked : List Asked) (after : Console σ) : Prop
    extends Consults before asked after where
  attended : after =
    { before.attended (asked.map Asked.call) with journal := after.journal }

theorem Attends.refl (console : Console σ) : Attends console [] console := by
  refine ⟨.refl console, ?_⟩
  rw [List.map_nil, attended_nil]

theorem Attends.trans {first middle last : Console σ} {earlier later : List Asked}
    (left : Attends first earlier middle) (right : Attends middle later last) :
    Attends first (earlier ++ later) last := by
  refine ⟨left.toConsults.trans right.toConsults, ?_⟩
  rw [List.map_append, attended_append, right.attended, left.attended]
  rfl

theorem attends_note (note : Note) (console : Console σ) :
    Attends console [] (console.record (.noted note)) := by
  refine ⟨consults_note note console, ?_⟩
  rw [List.map_nil, attended_nil, record]

theorem attends_ask (console : Console σ) (call : Call) :
    Attends console [{ call, answer := ((ask call).run console).1 }]
      ((ask call).run console).2 := by
  refine ⟨consults_ask console call, ?_⟩
  rw [run_ask]
  cases requests : (Device.answer console.device call).requestsShutdown with
  | true =>
      rw [if_pos rfl, requestShutdown_eq]
      simp [Console.attended, Device.elapsed, Device.requestsShutdown, Device.answerAll, record,
        requests]
  | false =>
      simp [Console.attended, Device.elapsed, Device.requestsShutdown, Device.answerAll, record,
        requests]

/-- The power key is pressed once, and a wait follows if the device took the press. -/
private theorem pressPower_cases {console : Console σ} (isPrimary : console.display = .primary) :
    (∃ error present, Attends console [.power (.error error)] present ∧
      pressPower.run console = (.ok false, present)) ∨
    ∃ present, Attends console [.power (.ok ())] present ∧
      pressPower.run console = present.awaited := by
  let noted := console.record
    (.noted { severity := .info, message := "screen is off, pressing power" })
  have isToo : noted.display = .primary := isPrimary
  cases asked : (ask (.inject (.press .power) noted.display)).run noted with
  | mk result pressed =>
      have run : (press .power).run noted = (result, pressed) := asked
      have attends : Attends console [.power result] pressed := by
        have pressing := attends_ask noted (.inject (.press .power) noted.display)
        rw [asked, asked_power isToo] at pressing
        exact (attends_note _ console).trans pressing
      unfold pressPower
      rw [StateT.run_bind]
      change (∃ error present, _ ∧ StateT.run (press .power >>= _) noted = _) ∨
        ∃ present, _ ∧ StateT.run (press .power >>= _) noted = _
      rw [StateT.run_bind, run]
      cases result with
      | error error =>
          exact .inl ⟨error, _, attends.trans (attends_note _ pressed), rfl⟩
      | ok =>
          exact .inr ⟨pressed, attends, run_awaited pressed⟩

/-- Waking the display asks the device, and then waits if the power key was pressed. -/
theorem wake_cases (enabled : Bool) (console : Console σ) :
    ∃ asked pressed present, Waking enabled console.display asked pressed ∧
      Attends console asked present ∧
      (wake enabled).run console = if pressed then present.awaited else (.ok false, present) := by
  by_cases idle : (!enabled || console.display ≠ .primary) = true
  · have run : (wake enabled).run console = (.ok false, console) := by
      change (if (!enabled || console.display ≠ .primary) = true then _ else _ :
        Act σ (Except Interruption Bool)).run console = _
      rw [if_pos idle]
      rfl
    refine ⟨[], false, console, .unasked ?_, .refl console, run⟩
    simpa using idle
  · obtain ⟨isEnabled, isPrimary⟩ : enabled = true ∧ console.display = .primary := by
      simpa using idle
    have run : (wake enabled).run console =
        (ask (.screenOn console.display) >>= fun isOn =>
          if isOn then pure (.ok false) else pressPower :
            Act σ (Except Interruption Bool)).run console := by
      change (if (!enabled || console.display ≠ .primary) = true then _ else _ :
        Act σ (Except Interruption Bool)).run console = _
      rw [if_neg idle]
    rw [run, StateT.run_bind]
    have attends := attends_ask console (.screenOn console.display)
    cases asked : (ask (.screenOn console.display)).run console with
    | mk isOn present =>
        rw [asked, asked_screen isPrimary] at attends
        have isToo : present.display = .primary := attends.display.trans isPrimary
        cases isOn with
        | true => exact ⟨_, false, present, .on isEnabled isPrimary, attends, rfl⟩
        | false =>
            rcases pressPower_cases isToo with ⟨error, later, presses, run⟩ | ⟨later, presses, run⟩
            · have both := attends.trans presses
              exact ⟨_, false, later, .refused isEnabled isPrimary error, both, run⟩
            · have both := attends.trans presses
              exact ⟨_, true, later, .pressed isEnabled isPrimary, both, run⟩

end Console

end RemoteInput
