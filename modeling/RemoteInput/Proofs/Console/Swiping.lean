import RemoteInput.Proofs.Console.Injections
import RemoteInput.Proofs.SwipePath.Steps

/-!
# How a swipe goes

A swipe puts the finger down, moves it with a pause after each move, and lifts
it.  `Swipes` lists the ways in which a swipe can go on once the finger is down:
an event fails, a pause is cut short, or the finger comes up.  By `swipe_cases`
a swipe that was begun goes on in one of these ways, and what holds of swipes is
proved by induction on them.
-/

namespace RemoteInput

/-- The touch event of a pointer that is put at a point with full pressure. -/
def Pointer.contact (pointer : Pointer) (downTime eventTime : Nat)
    (action : TouchAction) (place : Point) : TouchEvent :=
  .touch downTime eventTime action
    (pointer.moveTo place.x place.y Request.fullPressure) Request.noButtons

/-- The touch event at a waypoint. -/
def SwipePath.moveAt (path : SwipePath) (pointer : Pointer)
    (downTime index : Nat) : TouchEvent :=
  pointer.contact downTime (downTime + path.spacing * index) .move
    (path.waypoint index).point

section

variable (pointer : Pointer) (downTime eventTime : Nat) (action : TouchAction)
  (place : Point)

@[simp]
theorem Pointer.action_contact :
    (pointer.contact downTime eventTime action place).action = action :=
  rfl

@[simp]
theorem Pointer.downTime_contact :
    (pointer.contact downTime eventTime action place).downTime = downTime :=
  rfl

@[simp]
theorem Pointer.eventTime_contact :
    (pointer.contact downTime eventTime action place).eventTime = eventTime :=
  rfl

variable (path : SwipePath) (index : Nat)

@[simp]
theorem SwipePath.action_moveAt : (path.moveAt pointer downTime index).action = .move :=
  rfl

@[simp]
theorem SwipePath.downTime_moveAt :
    (path.moveAt pointer downTime index).downTime = downTime :=
  rfl

@[simp]
theorem SwipePath.eventTime_moveAt :
    (path.moveAt pointer downTime index).eventTime = downTime + path.spacing * index :=
  rfl

end

private theorem Pointer.moveTo_moveTo (pointer : Pointer) (lastX lastY x y : Int32)
    (lastPressure pressure : Binary32) :
    (pointer.moveTo lastX lastY lastPressure).moveTo x y pressure =
      pointer.moveTo x y pressure := by
  cases pointer with
  | mk id tool lastX lastY lastPressure orientation size =>
      have moved : ∀ lastX lastY lastPressure,
          (Pointer.mk id tool lastX lastY lastPressure orientation size).moveTo x y
            pressure =
          .mk id tool (.ofInt x.toInt) (.ofInt y.toInt) pressure orientation size :=
        fun _ _ _ => rfl
      rw [moved]
      exact moved _ _ _

/-- A contact leaves nothing of the contact before it in the pointer. -/
theorem Pointer.contact_contact (pointer : Pointer)
    (lastDownTime lastEventTime downTime eventTime : Nat)
    (lastAction action : TouchAction) (lastPlace place : Point) :
    (pointer.contact lastDownTime lastEventTime lastAction lastPlace).pointer.contact
        downTime eventTime action place =
      pointer.contact downTime eventTime action place :=
  congrArg (fun moved => TouchEvent.touch downTime eventTime action moved Request.noButtons)
    (pointer.moveTo_moveTo _ _ _ _ _ _)

namespace Console

variable {σ : Type}

/-! ## Pauses -/

/-- A sleep that is slept to its end has only taken its time. -/
theorem slept_true {console after : Console σ} {duration : Nat}
    (slept : console.slept duration = (true, after)) :
    ∃ moment, after = { console with toMoment := moment } ∧
      moment.clock =
        console.clock + (duration + console.oversleep console.clock) := by
  unfold Console.slept at slept
  dsimp only at slept
  by_cases stopped : console.catchUp.isStopped = true
  · simp [stopped] at slept
  · obtain ⟨rested, caughtUp, same⟩ := catchUp_of_not_stopped stopped
    rw [if_neg stopped, caughtUp] at slept
    split at slept
    · next waited =>
      have clock := Moment.clock_of_wait_ok waited
      cases slept
      exact ⟨_, rfl, by rw [clock]; simp only [same]⟩
    · cases slept

/-- A request for shutdown that is met in a pause was made before or is due. -/
private theorem due_of_requested_catchUp {console : Console σ}
    (requested : console.catchUp.shutdown.requested = true) :
    console.shutdown.requested = true ∨ console.reaches console.shutdown.due = true := by
  unfold catchUp expire at requested
  split at requested
  · split at requested
    · exact .inl requested
    · split at requested
      · next reached => exact .inr reached
      · exact .inl requested
  · exact .inl requested

/-- A console that is not stopped sleeps by waiting. -/
private theorem slept_iff_waits {console : Console σ} {moment : Moment}
    (unwatched : console.watch = {}) (goesOn : ¬ console.catchUp.isStopped = true)
    (caughtUp : console.catchUp = { console with toMoment := moment }) (duration : Nat) :
    (console.slept duration).1 = true ↔
      ∃ after, moment.wait console.shutdown.due
        (duration + console.oversleep moment.clock) = .ok after := by
  have deadline : ({ console with toMoment := moment } : Console σ).deadline =
      console.shutdown.due := by
    simp [Console.deadline, unwatched]
  unfold slept
  dsimp only
  rw [if_neg goesOn, caughtUp, deadline]
  dsimp only
  cases moment.wait console.shutdown.due (duration + console.oversleep moment.clock) with
  | ok after => simp
  | error left => simp

/-- A sleep is cut short just if shutdown was requested or is due before its
end. -/
theorem slept_eq_false_iff {console : Console σ} {duration : Nat}
    (unwatched : console.watch = {}) (positive : 0 < duration) :
    (console.slept duration).1 = false ↔
      console.shutdown.requested = true ∨ console.shutdown.due.any
        (· < console.clock + (duration + console.oversleep console.clock)) = true := by
  have stops := isStopped_iff ((works_catchUp console).unwatched unwatched)
  by_cases stopped : console.catchUp.isStopped = true
  · have cut : (console.slept duration).1 = false := by
      unfold slept
      dsimp only
      rw [if_pos stopped]
    refine ⟨fun _ => ?_, fun _ => cut⟩
    rcases due_of_requested_catchUp (stops.mp stopped) with before | reached
    · exact .inl before
    · right
      obtain ⟨due, isDue, passed⟩ := Option.any_eq_true .. |>.mp reached
      simp only [decide_eq_true_eq] at passed
      simp only [isDue, Option.any_some, decide_eq_true_eq]
      omega
  · obtain ⟨moment, caughtUp, same⟩ := catchUp_of_not_stopped stopped
    have unrequested : ¬ console.shutdown.requested = true := by
      have goesOn := mt stops.mpr stopped
      rwa [caughtUp] at goesOn
    have inTime := (slept_iff_waits unwatched stopped caughtUp duration).trans
      (Moment.wait_eq_ok_iff (Nat.add_pos_left positive _))
    rw [same] at inTime
    rw [← Bool.not_eq_true, inTime, Bool.not_eq_false]
    exact ⟨.inr, fun either => either.resolve_left unrequested⟩

private theorem run_pause (duration : Nat) (console : Console σ) :
    (pause duration : GestureAct σ Unit).run.run console =
      (if (console.slept duration).1 then .ok () else .error .interrupted,
        (console.slept duration).2) :=
  rfl

private theorem run_pause_of_cut {duration : Nat} {console after : Console σ}
    (slept : console.slept duration = (false, after)) {α : Type}
    (next : Unit → GestureAct σ α) :
    (pause duration >>= next).run.run console = (.error .interrupted, after) := by
  rw [ExceptT.run_bind, StateT.run_bind, run_pause, slept]
  rfl

private theorem run_pause_of_slept {duration : Nat} {console after : Console σ}
    (slept : console.slept duration = (true, after)) {α : Type}
    (next : Unit → GestureAct σ α) :
    (pause duration >>= next).run.run console = (next ()).run.run after := by
  rw [ExceptT.run_bind, StateT.run_bind, run_pause, slept]
  rfl

/-! ## Contacts -/

private theorem requested_of_requests (console : Console σ) (requests : Bool) :
    (if requests then console.requestShutdown else console).shutdown.requested =
      (console.shutdown.requested || requests) := by
  cases requests with
  | false => simp
  | true => simp [requested_requestShutdown]

private theorem device_of_requests (console : Console σ) (requests : Bool) :
    (if requests then console.requestShutdown else console).device = console.device := by
  unfold requestShutdown
  split
  · split <;> rfl
  · rfl

variable [Device σ]

theorem injects_inject (event : Injection) (console : Console σ) :
    Injects console
      [{ event, display := console.display, answer := ((inject event).run console).1 }]
      ((inject event).run console).2 :=
  injects_ask console (.inject event console.display)

theorem pointer_inject (event : Injection) (console : Console σ) :
    ((inject event).run console).2.pointer = console.pointer := by
  have plain : Plain (fun _ => True) (inject event : Act σ (Except DeviceError Unit)) :=
    plain_inject fun _ => trivial
  exact plain.blind.pointer console

/-- Puts the pointer where a touch event has it, and injects the event. -/
def contacted (touch : TouchEvent) (console : Console σ) :
    Except DeviceError Unit × Console σ :=
  (inject (.touch touch)).run { console with pointer := touch.pointer }

/-- What the journal holds of a touch event. -/
def attempt (touch : TouchEvent) (console : Console σ) : Injected :=
  { event := .touch touch
    display := console.display
    answer := (contacted touch console).1 }

theorem injects_contacted (touch : TouchEvent) (console : Console σ) :
    Injects console [attempt touch console] (contacted touch console).2 := by
  have pointed : Injects console [] { console with pointer := touch.pointer } :=
    ⟨Nat.le_refl _, ⟨[], proceeds_of_same rfl rfl id, rfl, rfl⟩, rfl, rfl, rfl⟩
  exact pointed.trans (injects_inject _ _)

/-- What a contact asks of the device, and what that leaves behind. -/
theorem contacted_eq (touch : TouchEvent) (console : Console σ) :
    let answered := Device.answer console.device (.inject (.touch touch) console.display)
    (contacted touch console).1 = answered.answer ∧
      (contacted touch console).2.device = answered.device ∧
      (contacted touch console).2.shutdown.requested =
        (console.shutdown.requested || answered.requestsShutdown) ∧
      (contacted touch console).2.clock = console.clock + answered.elapsed :=
  ⟨rfl, device_of_requests _ _, requested_of_requests _ _, rfl⟩

theorem pointer_contacted (touch : TouchEvent) (console : Console σ) :
    (contacted touch console).2.pointer = touch.pointer :=
  pointer_inject _ _

section

variable {downTime eventTime : Nat} {action : TouchAction} {place : Point}
  {touch : TouchEvent} {console : Console σ}
  (planned : touch = console.pointer.contact downTime eventTime action place)
  {α : Type} (next : Unit → GestureAct σ α)

include planned

private theorem run_contact :
    (contact downTime eventTime action place : GestureAct σ Unit).run.run console =
      ((contacted touch console).1.mapError .refused, (contacted touch console).2) := by
  subst planned
  rfl

private theorem run_contact_of_error {error : DeviceError}
    (answer : (contacted touch console).1 = .error error) :
    (contact downTime eventTime action place >>= next).run.run console =
      (.error (.refused error), (contacted touch console).2) := by
  rw [ExceptT.run_bind, StateT.run_bind, run_contact planned, answer]
  rfl

private theorem run_contact_of_ok (answer : (contacted touch console).1 = .ok ()) :
    (contact downTime eventTime action place >>= next).run.run console =
      (next ()).run.run (contacted touch console).2 := by
  rw [ExceptT.run_bind, StateT.run_bind, run_contact planned, answer]
  rfl

end

/-! ## Swipes -/

/-- How a swipe goes on along a path, a number of moves before its end and from
the waypoint with an index on: the injections, the result, and the console that
it leaves. -/
inductive Swipes (path : SwipePath) (downTime : Nat) :
    Nat → Nat → Console σ → List Injected → Except GestureError Unit →
      Console σ → Prop where
  | lifted {index : Nat} {console : Console σ} {touch : TouchEvent}
      (planned : touch = console.pointer.contact downTime console.clock .up path.finish) :
      Swipes path downTime 0 index console [attempt touch console]
        ((contacted touch console).1.mapError .refused) (contacted touch console).2
  | refused {left index : Nat} {console : Console σ} {touch : TouchEvent}
      {error : DeviceError}
      (planned : touch = path.moveAt console.pointer downTime index)
      (answer : (contacted touch console).1 = .error error) :
      Swipes path downTime (left + 1) index console [attempt touch console]
        (.error (.refused error)) (contacted touch console).2
  | cut {left index : Nat} {console after : Console σ} {touch : TouchEvent}
      (planned : touch = path.moveAt console.pointer downTime index)
      (answer : (contacted touch console).1 = .ok ())
      (slept : (contacted touch console).2.slept path.spacing = (false, after)) :
      Swipes path downTime (left + 1) index console [attempt touch console]
        (.error .interrupted) after
  | paused {left index : Nat} {console next after : Console σ} {touch : TouchEvent}
      {calls : List Injected} {result : Except GestureError Unit}
      (planned : touch = path.moveAt console.pointer downTime index)
      (answer : (contacted touch console).1 = .ok ())
      (slept : (contacted touch console).2.slept path.spacing = (true, next))
      (goesOn : Swipes path downTime left (index + 1) next calls result after) :
      Swipes path downTime (left + 1) index console (attempt touch console :: calls)
        result after

theorem Swipes.injects {path : SwipePath} {downTime left index : Nat}
    {console after : Console σ} {calls : List Injected}
    {result : Except GestureError Unit}
    (goes : Swipes path downTime left index console calls result after) :
    Injects console calls after := by
  induction goes with
  | lifted planned => exact injects_contacted _ _
  | refused planned answer => exact injects_contacted _ _
  | @cut left index console after touch planned answer slept =>
      have sleeps := injects_slept (contacted touch console).2 path.spacing
      rw [slept] at sleeps
      exact (injects_contacted touch console).idle sleeps
  | @paused left index console next after touch calls result planned answer slept _
      induction =>
      have sleeps := injects_slept (contacted touch console).2 path.spacing
      rw [slept] at sleeps
      exact ((injects_contacted touch console).idle sleeps).trans induction

/-- Lifts the finger at the end of a path. -/
private def lift (path : SwipePath) (downTime : Nat) : GestureAct σ Unit := do
  let upTime ← ExceptT.lift now
  contact downTime upTime .up path.finish

private theorem swipes_follow (path : SwipePath) (downTime left index : Nat)
    (console : Console σ) :
    ∃ calls result after, Swipes path downTime left index console calls result after ∧
      (follow path downTime left index >>= fun _ => lift path downTime).run.run console =
        (result, after) := by
  induction left generalizing index console with
  | zero =>
      refine ⟨_, _, _, .lifted rfl, ?_⟩
      rw [follow, pure_bind]
      exact run_contact rfl
  | succ left induction =>
      rw [follow]
      simp only [bind_assoc]
      let touch := path.moveAt console.pointer downTime index
      have planned : touch = console.pointer.contact downTime
          (downTime + (path.waypoint index).offset) .move (path.waypoint index).point := rfl
      cases answer : (contacted touch console).1 with
      | error error =>
          exact ⟨_, _, _, .refused rfl answer, run_contact_of_error planned _ answer⟩
      | ok =>
          rw [run_contact_of_ok planned _ answer]
          cases slept : (contacted touch console).2.slept path.spacing with
          | mk wholly next =>
              cases wholly with
              | false => exact ⟨_, _, _, .cut rfl answer slept, run_pause_of_cut slept _⟩
              | true =>
                  rw [run_pause_of_slept slept]
                  obtain ⟨calls, result, after, goesOn, run⟩ := induction (index + 1) next
                  exact ⟨_, result, after, .paused rfl answer slept goesOn, run⟩

/-- A swipe puts the finger down; if that succeeds it goes on. -/
theorem swipe_cases (arguments : Request.Swipe) (console : Console σ) :
    let path := SwipePath.plan ⟨arguments.x1, arguments.y1⟩
      ⟨arguments.x2, arguments.y2⟩ arguments.duration
    let down := console.pointer.contact console.clock console.clock .down path.start
    (∃ error, (contacted down console).1 = .error error ∧
      (swipe arguments).run console =
        (.error (.refused error), (contacted down console).2)) ∨
    (contacted down console).1 = .ok () ∧
      ∃ calls result after,
        Swipes path console.clock path.moveCount 1 (contacted down console).2 calls
          result after ∧
        (swipe arguments).run console = (result, after) := by
  intro path down
  have begun : (swipe arguments).run console =
      (contact console.clock console.clock .down path.start >>= fun _ =>
        follow path console.clock path.moveCount 1 >>= fun _ =>
          lift path console.clock : GestureAct σ Unit).run.run console := by
    rfl
  have planned : down = console.pointer.contact console.clock console.clock .down
      path.start := rfl
  rw [begun]
  cases answer : (contacted down console).1 with
  | error error => exact .inl ⟨error, rfl, run_contact_of_error planned _ answer⟩
  | ok =>
      right
      rw [run_contact_of_ok planned _ answer]
      exact ⟨rfl, swipes_follow path console.clock path.moveCount 1 _⟩

end Console

end RemoteInput
