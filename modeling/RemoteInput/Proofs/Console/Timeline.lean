import RemoteInput.Device.Rehearsal
import RemoteInput.Device.InMemory
import RemoteInput.Proofs.Console.Swiping

/-!
# The timeline of a swipe

If sleeps last exactly as long as they should and nothing else takes time, all
touch events of a swipe are known when it begins: `SwipePath.timeline`.  The
device is asked to inject them in that order, and `Trial.stop?` says after which
of them a swipe stops.  A swipe makes the events up to the first such one:
`swipe_timeline`.
-/

namespace RemoteInput

/-- The touch events of a whole swipe that begins at an instant, if only its
pauses take time. -/
def SwipePath.timeline (path : SwipePath) (pointer : Pointer)
    (start : Nat) : List TouchEvent :=
  pointer.contact start start .down path.start ::
    ((List.range' 1 (path.steps - 1)).map (path.moveAt pointer start) ++
      [pointer.contact start (start + path.spacing * (path.steps - 1)) .up path.finish])

/-- A touch event, the answer of the device to it, and whether shutdown was
requested before that answer. -/
structure Trial where
  touch : TouchEvent
  answer : Except DeviceError Unit
  requested : Bool

/-- What a device makes of touch events, one after the other. -/
def trials {σ : Type} [Device σ] (display : DisplayId) (device : σ) (requested : Bool) :
    List TouchEvent → List Trial
  | [] => []
  | touch :: rest =>
      let answered := Device.answer device (.inject (.touch touch) display)
      let requested := requested || answered.requestsShutdown
      { touch, answer := answered.answer, requested } ::
        trials display answered.device requested rest

theorem touch_trials {σ : Type} [Device σ] (display : DisplayId) (device : σ)
    (requested : Bool) (touches : List TouchEvent) :
    (trials display device requested touches).map Trial.touch = touches := by
  induction touches generalizing device requested with
  | nil => rfl
  | cons touch rest induction => rw [trials, List.map_cons, induction]

namespace Trial

/-- Why a swipe stops after a touch event, if it does.  A refused event stops it,
and so does a move if shutdown is requested before the end of its pause, which
is the instant that the move bears. -/
def stop? (due : Option Nat) (trial : Trial) : Option GestureError :=
  match trial.answer with
  | .error error => some (.refused error)
  | .ok () =>
      if trial.touch.action = .move &&
          (trial.requested || due.any (· < trial.touch.eventTime)) then
        some .interrupted
      else
        none

/-- The trials up to and including the first after which a swipe stops. -/
def made (due : Option Nat) (planned : List Trial) : List Trial :=
  planned.take (planned.findIdx (fun trial => (trial.stop? due).isSome) + 1)

/-- What a swipe comes to: the first reason to stop, or success. -/
def outcome (due : Option Nat) (planned : List Trial) : Except GestureError Unit :=
  (planned.findSome? (stop? due)).elim (.ok ()) .error

/-- What the journal holds of a trial. -/
def injected (display : DisplayId) (trial : Trial) : Injected :=
  { event := .touch trial.touch, display, answer := trial.answer }

/-- A move that the device accepted. -/
def isAcceptedMove (trial : Trial) : Bool :=
  trial.touch.action = .move && trial.answer.isOk

variable {due : Option Nat} {trial : Trial} {rest : List Trial}

theorem made_cons_of_stop {reason : GestureError}
    (stops : trial.stop? due = some reason) : made due (trial :: rest) = [trial] := by
  simp [made, List.findIdx_cons, stops]

theorem made_cons_of_none (goesOn : trial.stop? due = none) :
    made due (trial :: rest) = trial :: made due rest := by
  simp [made, List.findIdx_cons, goesOn]

theorem made_ne_nil {planned : List Trial} (some : planned ≠ []) :
    made due planned ≠ [] := by
  simp [made, some]

theorem outcome_of_findSome? {planned : List Trial} {reason : GestureError}
    (stops : planned.findSome? (stop? due) = some reason) :
    outcome due planned = .error reason := by
  rw [outcome, stops]
  rfl

theorem outcome_cons_of_stop {reason : GestureError}
    (stops : trial.stop? due = some reason) :
    outcome due (trial :: rest) = .error reason := by
  simp [outcome, stops]

theorem outcome_cons_of_none (goesOn : trial.stop? due = none) :
    outcome due (trial :: rest) = outcome due rest := by
  simp [outcome, goesOn]

end Trial

namespace Console

/-- The touch events that are left of a swipe at an instant. -/
private def remainder (path : SwipePath) (pointer : Pointer)
    (start left index now : Nat) : List TouchEvent :=
  (List.range' index left).map (path.moveAt pointer start) ++
    [pointer.contact start (now + path.spacing * left) .up path.finish]

private theorem remainder_succ (path : SwipePath) (pointer : Pointer)
    (start left index now : Nat) :
    remainder path pointer start (left + 1) index now =
      path.moveAt pointer start index ::
        remainder path pointer start left (index + 1) (now + path.spacing) := by
  have later : now + path.spacing * (left + 1) =
      now + path.spacing + path.spacing * left := by
    rw [Nat.mul_succ]
    omega
  rw [remainder, remainder, List.range'_succ, List.map_cons, List.cons_append, later]

/-- What is left of a swipe does not depend on where the pointer is. -/
private theorem remainder_of_contact (path : SwipePath) (pointer : Pointer)
    (start left index now downTime eventTime : Nat) (action : TouchAction)
    (place : Point) :
    remainder path (pointer.contact downTime eventTime action place).pointer start left
        index now =
      remainder path pointer start left index now := by
  have moves : path.moveAt (pointer.contact downTime eventTime action place).pointer start =
      path.moveAt pointer start :=
    funext fun _ => Pointer.contact_contact _ _ _ _ _ _ _ _ _
  rw [remainder, moves, Pointer.contact_contact, remainder]

variable {σ : Type}

/-- What is injected, what it comes to and how long it takes accord with what a
device makes of the planned touch events. -/
private structure Accords (path : SwipePath) (due : Option Nat) (planned : List Trial)
    (before : Console σ) (calls : List Injected) (result : Except GestureError Unit)
    (after : Console σ) : Prop where
  made : calls = (Trial.made due planned).map (Trial.injected before.display)
  comes : result = Trial.outcome due planned
  ends : result ≠ .error .interrupted → after.clock =
    before.clock + path.spacing * (Trial.made due planned).countP Trial.isAcceptedMove

private theorem accords_nil {path : SwipePath} {due : Option Nat}
    {console : Console σ} : Accords path due [] console [] (.ok ()) console :=
  ⟨rfl, rfl, fun _ => rfl⟩

variable [Device σ]

/-- Only pauses take time on a console, and just as long as they should. -/
private structure Exact (console : Console σ) : Prop where
  unwatched : console.watch = {}
  sleeps : ∀ instant, console.oversleep instant = 0
  calls : ∀ (device : σ) (event : Injection) (display : DisplayId),
    (Device.answer device (.inject event display)).elapsed = 0

private theorem Exact.injects {before after : Console σ} {calls : List Injected}
    (exactly : Exact before) (injects : Injects before calls after) : Exact after := by
  refine ⟨injects.works.unwatched exactly.unwatched, ?_, exactly.calls⟩
  rw [injects.oversleep]
  exact exactly.sleeps

private theorem Exact.clock_contacted {console : Console σ} (exactly : Exact console)
    (touch : TouchEvent) :
    (contacted touch console).2.clock = console.clock := by
  rw [(contacted_eq touch console).2.2.2, exactly.calls]
  rfl

/-- What the device makes of a touch event at a console. -/
private def trial (touch : TouchEvent) (console : Console σ) : Trial :=
  { touch
    answer := (contacted touch console).1
    requested := (contacted touch console).2.shutdown.requested }

private theorem trials_cons (touch : TouchEvent) (rest : List TouchEvent)
    (console : Console σ) :
    trials console.display console.device console.shutdown.requested (touch :: rest) =
      trial touch console ::
        trials (contacted touch console).2.display (contacted touch console).2.device
          (contacted touch console).2.shutdown.requested rest := by
  obtain ⟨answer, device, requested, _⟩ := contacted_eq touch console
  rw [trials, (injects_contacted touch console).display, device, trial, answer, requested]

private theorem stop?_of_error {touch : TouchEvent} {console : Console σ}
    {error : DeviceError} (answer : (contacted touch console).1 = .error error)
    (due : Option Nat) :
    (trial touch console).stop? due = some (.refused error) := by
  simp [Trial.stop?, trial, answer]

private theorem stop?_of_lift {touch : TouchEvent} {console : Console σ}
    (answer : (contacted touch console).1 = .ok ()) (notMove : touch.action ≠ .move)
    (due : Option Nat) :
    (trial touch console).stop? due = none := by
  simp [Trial.stop?, trial, answer, notMove]

/-- A move that was accepted stops a swipe just if its pause is cut short. -/
private theorem stop?_of_move {path : SwipePath} {start index : Nat}
    {touch : TouchEvent} {console : Console σ} (exactly : Exact console)
    (takesTime : 0 < path.spacing)
    (inTime : console.clock + path.spacing = start + path.spacing * index)
    (planned : touch = path.moveAt console.pointer start index)
    (answer : (contacted touch console).1 = .ok ()) :
    (trial touch console).stop? console.shutdown.due =
      if ((contacted touch console).2.slept path.spacing).1 then none
      else some .interrupted := by
  have injects := injects_contacted touch console
  have exactlyAfter := exactly.injects injects
  obtain ⟨events, proceeds, _⟩ := injects.journal
  have isMove : touch.action = .move := by rw [planned, SwipePath.action_moveAt]
  have ends : touch.eventTime = (contacted touch console).2.clock +
      (path.spacing + (contacted touch console).2.oversleep
        (contacted touch console).2.clock) := by
    rw [exactlyAfter.sleeps, exactly.clock_contacted, Nat.add_zero, inTime, planned]
    rfl
  have cut := slept_eq_false_iff exactlyAfter.unwatched takesTime
  rw [← ends, proceeds.due] at cut
  simp only [Trial.stop?, trial, answer, isMove, decide_true, Bool.true_and,
    Bool.or_eq_true, ← cut]
  cases ((contacted touch console).2.slept path.spacing).1 with
  | true => rfl
  | false => rfl

section

variable {path : SwipePath} {due : Option Nat} {rest : List Trial} {touch : TouchEvent}
  {console : Console σ}

private theorem accords_of_error (exactly : Exact console) {error : DeviceError}
    (answer : (contacted touch console).1 = .error error) :
    Accords path due (trial touch console :: rest) console [attempt touch console]
      (.error (.refused error)) (contacted touch console).2 := by
  have stops := stop?_of_error answer due
  have notAccepted : (trial touch console).isAcceptedMove = false := by
    simp [Trial.isAcceptedMove, trial, answer, Except.isOk, Except.toBool]
  constructor
  · rw [Trial.made_cons_of_stop stops]
    rfl
  · rw [Trial.outcome_cons_of_stop stops]
  · intro _
    rw [Trial.made_cons_of_stop stops, exactly.clock_contacted]
    simp [notAccepted]

/-- A touch event after which a swipe goes on comes before those that accord. -/
private theorem Accords.cons {next after : Console σ} {calls : List Injected}
    {result : Except GestureError Unit}
    (goesOn : (trial touch console).stop? due = none)
    (display : next.display = console.display)
    (clock : next.clock = console.clock +
      path.spacing * [trial touch console].countP Trial.isAcceptedMove)
    (accords : Accords path due rest next calls result after) :
    Accords path due (trial touch console :: rest) console
      (attempt touch console :: calls) result after := by
  constructor
  · rw [Trial.made_cons_of_none goesOn, accords.made, display]
    rfl
  · rw [Trial.outcome_cons_of_none goesOn, accords.comes]
  · intro uncut
    rw [Trial.made_cons_of_none goesOn, accords.ends uncut, clock, Nat.add_assoc,
      ← Nat.mul_add, ← List.countP_append, List.singleton_append]

private theorem countP_of_lift (notMove : touch.action ≠ .move) :
    [trial touch console].countP Trial.isAcceptedMove = 0 := by
  simp [Trial.isAcceptedMove, trial, notMove]

private theorem countP_of_move (isMove : touch.action = .move)
    (answer : (contacted touch console).1 = .ok ()) :
    [trial touch console].countP Trial.isAcceptedMove = 1 := by
  simp [Trial.isAcceptedMove, trial, isMove, answer, Except.isOk, Except.toBool]

end

/-- What is left of a swipe goes as planned. -/
private theorem swipes_timeline {path : SwipePath} {start left index : Nat}
    {console after : Console σ} {calls : List Injected}
    {result : Except GestureError Unit}
    (goes : Swipes path start left index console calls result after)
    (exactly : Exact console) (takesTime : 0 < left → 0 < path.spacing)
    (inTime : console.clock + path.spacing = start + path.spacing * index)
    {due : Option Nat} (isDue : console.shutdown.due = due) :
    Accords path due
      (trials console.display console.device console.shutdown.requested
        (remainder path console.pointer start left index console.clock))
      console calls result after := by
  induction goes with
  | @lifted index console touch planned =>
      have last : remainder path console.pointer start 0 index console.clock = [touch] := by
        rw [planned]
        rfl
      have lifts : touch.action ≠ .move := by simp [planned]
      rw [last, trials_cons]
      cases answer : (contacted touch console).1 with
      | error error => exact accords_of_error exactly answer
      | ok =>
          apply Accords.cons (stop?_of_lift answer lifts due)
          · exact (injects_contacted touch console).display
          · rw [exactly.clock_contacted, countP_of_lift lifts]
            rfl
          · exact accords_nil
  | @refused left index console touch error planned answer =>
      rw [remainder_succ, ← planned, trials_cons]
      exact accords_of_error exactly answer
  | @cut left index console after touch planned answer slept =>
      have stops := stop?_of_move exactly (takesTime (Nat.succ_pos left)) inTime
        planned answer
      rw [slept, isDue] at stops
      rw [remainder_succ, ← planned, trials_cons]
      constructor
      · rw [Trial.made_cons_of_stop stops]
        rfl
      · rw [Trial.outcome_cons_of_stop stops]
      · intro uncut
        exact absurd rfl uncut
  | @paused left index console next after touch calls result planned answer slept _
      induction =>
      have goesOn := stop?_of_move exactly (takesTime (Nat.succ_pos left)) inTime
        planned answer
      rw [slept, isDue] at goesOn
      have injects := injects_contacted touch console
      have exactlyAfter := exactly.injects injects
      obtain ⟨events, proceeds, _⟩ := injects.journal
      obtain ⟨moment, rfl, clock⟩ := slept_true slept
      rw [exactlyAfter.sleeps, Nat.add_zero, exactly.clock_contacted] at clock
      -- The pause took just its time, so what is left is still what was planned.
      have rest : remainder path (contacted touch console).2.pointer start left
          (index + 1) moment.clock =
          remainder path console.pointer start left (index + 1)
            (console.clock + path.spacing) := by
        rw [pointer_contacted, planned, clock]
        exact remainder_of_contact ..
      have later : moment.clock + path.spacing = start + path.spacing * (index + 1) := by
        rw [clock, inTime, Nat.mul_succ]
        omega
      have accords := induction
        ⟨exactlyAfter.unwatched, exactlyAfter.sleeps, exactlyAfter.calls⟩
        (fun _ => takesTime (Nat.succ_pos left)) later (proceeds.due.trans isDue)
      have isMove : touch.action = .move := by rw [planned, SwipePath.action_moveAt]
      rw [remainder_succ, ← planned, trials_cons, ← rest]
      apply accords.cons goesOn
      · exact injects.display
      · rw [countP_of_move isMove answer, Nat.mul_one]
        exact clock

/-- A whole swipe goes as planned. -/
private theorem swipe_accords (arguments : Request.Swipe) {console : Console σ}
    (exactly : Exact console) :
    let path := SwipePath.plan ⟨arguments.x1, arguments.y1⟩
      ⟨arguments.x2, arguments.y2⟩ arguments.duration
    ∃ calls, Injects console calls ((swipe arguments).run console).2 ∧
      Accords path console.shutdown.due
        (trials console.display console.device console.shutdown.requested
          (path.timeline console.pointer console.clock))
        console calls ((swipe arguments).run console).1
        ((swipe arguments).run console).2 := by
  intro path
  let down := console.pointer.contact console.clock console.clock .down path.start
  have whole : path.timeline console.pointer console.clock = down ::
      remainder path console.pointer console.clock path.moveCount 1 console.clock := rfl
  have injects := injects_contacted down console
  rw [whole, trials_cons]
  rcases swipe_cases arguments console with
    ⟨error, answer, run⟩ | ⟨answer, calls, result, after, goes, run⟩
  · rw [run]
    exact ⟨_, injects, accords_of_error exactly answer⟩
  · obtain ⟨events, proceeds, _⟩ := injects.journal
    have clock := exactly.clock_contacted down
    have rest : remainder path (contacted down console).2.pointer console.clock
        path.moveCount 1 (contacted down console).2.clock =
        remainder path console.pointer console.clock path.moveCount 1 console.clock := by
      rw [pointer_contacted, clock]
      exact remainder_of_contact ..
    have accords := swipes_timeline goes (exactly.injects injects)
      SwipePath.spacing_plan_pos (by rw [clock, Nat.mul_one]) proceeds.due
    rw [rest] at accords
    rw [run]
    refine ⟨_, injects.trans (goes.injects), ?_⟩
    have putsDown : down.action ≠ .move := by simp [down]
    apply accords.cons (stop?_of_lift answer putsDown _)
    · exact injects.display
    · rw [clock, countP_of_lift putsDown]
      rfl

/-- A swipe whose pauses last exactly as long as they should, on a device that
answers at once, injects the events of its timeline up to the first after which
it stops, for the reason that there is; it takes the time of its moves, unless a
pause is cut short. -/
theorem swipe_timeline (arguments : Request.Swipe) (console : Console σ)
    (unwatched : console.watch = {})
    (sleeps : ∀ instant, console.oversleep instant = 0)
    (answers : ∀ (device : σ) (event : Injection) (display : DisplayId),
      (Device.answer device (.inject event display)).elapsed = 0) :
    let path := SwipePath.plan ⟨arguments.x1, arguments.y1⟩
      ⟨arguments.x2, arguments.y2⟩ arguments.duration
    let timeline := path.timeline console.pointer console.clock
    let planned := trials console.display console.device console.shutdown.requested
      timeline
    let made := Trial.made console.shutdown.due planned
    let ended := (swipe arguments).run console
    made ≠ [] ∧ made.map Trial.touch <+: timeline ∧
      (∃ events, ended.2.journal.toList = console.journal.toList ++ events ∧
        injections events = made.map (Trial.injected console.display)) ∧
      ended.1 = Trial.outcome console.shutdown.due planned ∧
      (ended.1 ≠ .error .interrupted →
        ended.2.clock =
          console.clock + path.spacing * made.countP Trial.isAcceptedMove) := by
  intro path timeline planned made ended
  have isPrefix : made.map Trial.touch <+: timeline := by
    rw [← touch_trials console.display console.device console.shutdown.requested timeline]
    exact (List.take_prefix _ _).map _
  obtain ⟨calls, injects, accords⟩ :=
    swipe_accords arguments ⟨unwatched, sleeps, answers⟩
  obtain ⟨events, proceeds, _, injected⟩ := injects.journal
  exact ⟨Trial.made_ne_nil nofun, isPrefix,
    ⟨events, proceeds.journal, injected.trans accords.made⟩, accords.comes, accords.ends⟩

theorem swipe_timeline_of_shutdown :
    let arguments : Request.Swipe := { x1 := 0, y1 := 0, x2 := 50, y2 := 0, duration := 48 }
    let path := SwipePath.plan ⟨arguments.x1, arguments.y1⟩
      ⟨arguments.x2, arguments.y2⟩ arguments.duration
    let console : Console InMemoryDevice := .start .primary {} { due := some 20 }
    let made := Trial.made console.shutdown.due
      (trials console.display console.device console.shutdown.requested
        (path.timeline console.pointer console.clock))
    let ended := (swipe arguments).run console
    console.watch = {} ∧ (∀ instant, console.oversleep instant = 0) ∧
      (∀ (device : InMemoryDevice) (event : Injection) (display : DisplayId),
        (Device.answer device (.inject event display)).elapsed = 0) ∧
      made.length = 3 ∧ ended.1 = .error .interrupted ∧
      ∃ events, ended.2.journal.toList = console.journal.toList ++ events ∧
        injections events = made.map (Trial.injected console.display) := by
  intro arguments path console made ended
  have answers : ∀ (device : InMemoryDevice) (event : Injection) (display : DisplayId),
      (Device.answer device (.inject event display)).elapsed = 0 := fun _ _ _ => rfl
  obtain ⟨_, _, injected, comes, _⟩ :=
    swipe_timeline arguments console rfl (fun _ => rfl) answers
  have cut : (trials console.display console.device console.shutdown.requested
      (path.timeline console.pointer console.clock)).findSome?
        (Trial.stop? console.shutdown.due) = some .interrupted := by
    decide +kernel
  exact ⟨rfl, fun _ => rfl, answers, by decide +kernel,
    comes.trans (Trial.outcome_of_findSome? cut), injected⟩

end Console

end RemoteInput
