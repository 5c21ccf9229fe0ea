import RemoteInput.Proofs.Console.Commands

/-!
# The time stamps of a gesture

Each touch event tells when the finger came down and when the event happened.
Moves of a swipe are stamped with the end of their pause, ahead of the clock;
the other events are stamped with the clock.  `Gesture` says that the accepted
events of a gesture are in order nevertheless, and by `stamps_dispatch` those of
every request line are.  When a line has its reply, no stamp is ahead of the
clock any more; only a pause that is cut short leaves one.
-/

namespace RemoteInput

/-- The touch event of an injection that was accepted. -/
def Injected.touch? (injected : Injected) : Option TouchEvent :=
  match injected.event, injected.answer with
  | .touch touch, .ok () => some touch
  | _, _ => none

/-- The touch events that were accepted, in order. -/
def acceptedTouches (calls : List Injected) : List TouchEvent :=
  calls.filterMap Injected.touch?

theorem acceptedTouches_of_keys {calls : List Injected}
    (keys : ∀ call ∈ calls, ∀ touch, call.event ≠ .touch touch) :
    acceptedTouches calls = [] := by
  apply List.filterMap_eq_nil_iff.mpr
  intro call member
  obtain ⟨event, display, answer⟩ := call
  cases event with
  | press code => rfl
  | key event => rfl
  | touch touch => exact absurd rfl (keys _ member touch)

/-- The accepted touch events of one gesture, whose finger came down at an
instant: their stamps are in order, and those of down and moves rise. -/
structure Gesture (downTime : Nat) (touches : List TouchEvent) : Prop where
  stamped : ∀ touch ∈ touches, touch.downTime = downTime ∧ downTime ≤ touch.eventTime
  ordered : touches.Pairwise fun earlier later =>
    earlier.eventTime ≤ later.eventTime ∧
      (earlier.action ≠ .up → later.action ≠ .up → earlier.eventTime < later.eventTime)

namespace Gesture

variable {downTime : Nat} {touch : TouchEvent} {touches : List TouchEvent}

theorem nil : Gesture downTime [] := by
  constructor
  · intro touch member
    cases member
  · exact .nil

theorem cons (gesture : Gesture downTime touches) (isDown : touch.downTime = downTime)
    (inTime : downTime ≤ touch.eventTime)
    (before : ∀ later ∈ touches, touch.eventTime ≤ later.eventTime ∧
      (touch.action ≠ .up → later.action ≠ .up → touch.eventTime < later.eventTime)) :
    Gesture downTime (touch :: touches) := by
  constructor
  · intro other member
    rcases List.mem_cons.mp member with isFirst | isOther
    · subst isFirst
      exact ⟨isDown, inTime⟩
    · exact gesture.stamped other isOther
  · exact .cons before gesture.ordered

theorem sublist {part : List TouchEvent} (gesture : Gesture downTime touches)
    (some : part.Sublist touches) : Gesture downTime part := by
  constructor
  · intro touch member
    exact gesture.stamped touch (some.subset member)
  · exact gesture.ordered.sublist some

theorem single (isDown : touch.downTime = downTime)
    (inTime : downTime ≤ touch.eventTime) : Gesture downTime [touch] := by
  apply nil.cons isDown inTime
  intro later member
  cases member

end Gesture

namespace Console

variable {σ : Type}

/-- Between two consoles lies one gesture, if any; and if it is settled, none of
its stamps is ahead of the clock. -/
def Stamps (before after : Console σ) (settled : Prop) : Prop :=
  ∃ calls, Injects before calls after ∧
    Gesture before.clock (acceptedTouches calls) ∧
    (settled → ∀ touch ∈ acceptedTouches calls, touch.eventTime ≤ after.clock)

theorem stamps_of_quiet {before after : Console σ} {calls : List Injected}
    (injects : Injects before calls after) (quiet : acceptedTouches calls = [])
    (settled : Prop) : Stamps before after settled := by
  refine ⟨calls, injects, ?_⟩
  rw [quiet]
  refine ⟨.nil, ?_⟩
  intro _ touch member
  cases member

theorem Stamps.idle {before middle after : Console σ} {settled : Prop}
    (stamps : Stamps before middle settled) (injects : Injects middle [] after) :
    Stamps before after settled := by
  obtain ⟨calls, begins, gesture, inTime⟩ := stamps
  refine ⟨calls, begins.idle injects, gesture, ?_⟩
  intro isSettled touch member
  exact Nat.le_trans (inTime isSettled touch member) injects.clock

theorem Stamps.mono {before after : Console σ} {settled earlier : Prop}
    (stamps : Stamps before after settled) (implies : earlier → settled) :
    Stamps before after earlier := by
  obtain ⟨calls, injects, gesture, inTime⟩ := stamps
  exact ⟨calls, injects, gesture, fun isEarlier => inTime (implies isEarlier)⟩

/-! ## Swipes -/

/-- What is left of a swipe bears stamps that are in order, from the next
waypoint on. -/
private structure Sweeps (path : SwipePath) (downTime index : Nat)
    (touches : List TouchEvent) : Prop where
  gesture : Gesture downTime touches
  moves : ∀ touch ∈ touches, touch.action ≠ .up →
    0 < path.spacing ∧ downTime + path.spacing * index ≤ touch.eventTime
  lifts : ∀ touch ∈ touches,
    downTime + path.spacing * index ≤ touch.eventTime + path.spacing

private theorem sweeps_nil (path : SwipePath) (downTime index : Nat) :
    Sweeps path downTime index [] := by
  constructor
  · exact .nil
  · intro touch member
    cases member
  · intro touch member
    cases member

/-- A move comes before what is left after it. -/
private theorem Sweeps.cons {path : SwipePath} {downTime index : Nat}
    {pointer : Pointer} {touches : List TouchEvent} (takesTime : 0 < path.spacing)
    (sweeps : Sweeps path downTime (index + 1) touches) :
    Sweeps path downTime index (path.moveAt pointer downTime index :: touches) := by
  have next : path.spacing * (index + 1) = path.spacing * index + path.spacing :=
    Nat.mul_succ _ _
  constructor
  · apply sweeps.gesture.cons (SwipePath.downTime_moveAt ..)
    · rw [SwipePath.eventTime_moveAt]
      exact Nat.le_add_right _ _
    intro later member
    rw [SwipePath.eventTime_moveAt]
    have lifts := sweeps.lifts later member
    refine ⟨by omega, fun _ notUp => ?_⟩
    have moves := (sweeps.moves later member notUp).2
    omega
  · intro touch member notUp
    rcases List.mem_cons.mp member with isFirst | isOther
    · subst isFirst
      exact ⟨takesTime, Nat.le_refl _⟩
    · have moves := (sweeps.moves touch isOther notUp).2
      exact ⟨takesTime, by omega⟩
  · intro touch member
    rcases List.mem_cons.mp member with isFirst | isOther
    · subst isFirst
      exact Nat.le_add_right _ _
    · have lifts := sweeps.lifts touch isOther
      omega

private theorem sweeps_lift {path : SwipePath} {downTime index upTime : Nat}
    (pointer : Pointer) (inTime : downTime + path.spacing * index ≤ upTime + path.spacing)
    (started : downTime ≤ upTime) :
    Sweeps path downTime index [pointer.contact downTime upTime .up path.finish] := by
  constructor
  · exact .single (Pointer.downTime_contact ..) started
  · intro touch member notUp
    rw [List.mem_singleton.mp member] at notUp
    exact absurd rfl notUp
  · intro touch member
    rw [List.mem_singleton.mp member]
    exact inTime

variable [Device σ]

private theorem acceptedTouches_of_ok {touch : TouchEvent} {console : Console σ}
    (answer : (contacted touch console).1 = .ok ()) (calls : List Injected) :
    acceptedTouches (attempt touch console :: calls) = touch :: acceptedTouches calls := by
  have accepted : (attempt touch console).touch? = some touch := by
    simp [attempt, Injected.touch?, answer]
  rw [acceptedTouches, List.filterMap_cons_some accepted]
  rfl

private theorem acceptedTouches_of_error {touch : TouchEvent} {console : Console σ}
    {error : DeviceError} (answer : (contacted touch console).1 = .error error) :
    acceptedTouches [attempt touch console] = [] := by
  have refused : (attempt touch console).touch? = none := by
    simp [attempt, Injected.touch?, answer]
  rw [acceptedTouches, List.filterMap_cons_none refused]
  rfl

/-- A swipe that goes on keeps its stamps in order, and when it ends without
being cut short, none is ahead of the clock. -/
private theorem sweeps_of_swipes {path : SwipePath} {downTime left index : Nat}
    {console after : Console σ} {calls : List Injected}
    {result : Except GestureError Unit}
    (goes : Swipes path downTime left index console calls result after)
    (takesTime : 0 < left → 0 < path.spacing)
    (inTime : downTime + path.spacing * index ≤ console.clock + path.spacing)
    (started : downTime ≤ console.clock) :
    Sweeps path downTime index (acceptedTouches calls) ∧
      (result ≠ .error .interrupted →
        ∀ touch ∈ acceptedTouches calls, touch.eventTime ≤ after.clock) := by
  induction goes with
  | @lifted index console touch planned =>
      cases answer : (contacted touch console).1 with
      | error error =>
          rw [acceptedTouches_of_error answer]
          refine ⟨sweeps_nil _ _ _, ?_⟩
          intro _ touch member
          cases member
      | ok =>
          rw [acceptedTouches_of_ok answer, planned]
          refine ⟨sweeps_lift _ inTime started, ?_⟩
          intro _ other member
          rw [List.mem_singleton.mp member, Pointer.eventTime_contact, ← planned]
          exact (injects_contacted touch console).clock
  | @refused left index console touch error planned answer =>
      rw [acceptedTouches_of_error answer]
      refine ⟨sweeps_nil _ _ _, ?_⟩
      intro _ touch member
      cases member
  | @cut left index console after touch planned answer slept =>
      rw [acceptedTouches_of_ok answer, planned]
      refine ⟨(sweeps_nil _ _ _).cons (takesTime (Nat.succ_pos left)), ?_⟩
      intro uncut
      exact absurd rfl uncut
  | @paused left index console next after touch calls result planned answer slept goesOn
      induction =>
      have contact := (injects_contacted touch console).clock
      obtain ⟨moment, rfl, clock⟩ := slept_true slept
      -- The move bears the end of its pause, and the pause lasted at least until then.
      have reached : downTime + path.spacing * index ≤ moment.clock := by omega
      have further : downTime + path.spacing * (index + 1) ≤
          moment.clock + path.spacing := by
        rw [Nat.mul_succ]
        omega
      obtain ⟨sweeps, settled⟩ := induction (fun _ => takesTime (Nat.succ_pos left))
        further (by dsimp only; omega)
      rw [acceptedTouches_of_ok answer, planned]
      refine ⟨sweeps.cons (takesTime (Nat.succ_pos left)), ?_⟩
      intro uncut other member
      rcases List.mem_cons.mp member with isFirst | isOther
      · rw [isFirst, SwipePath.eventTime_moveAt]
        exact Nat.le_trans reached goesOn.injects.clock
      · exact settled uncut other isOther

private theorem stamps_swipe (arguments : Request.Swipe) (console : Console σ) :
    Stamps console ((swipe arguments).run console).2
      (((swipe arguments).run console).1 ≠ .error .interrupted) := by
  let path := SwipePath.plan ⟨arguments.x1, arguments.y1⟩
    ⟨arguments.x2, arguments.y2⟩ arguments.duration
  let down := console.pointer.contact console.clock console.clock .down path.start
  have injects := injects_contacted down console
  rcases swipe_cases arguments console with
    ⟨error, answer, run⟩ | ⟨answer, calls, result, after, goes, run⟩
  · rw [run]
    exact stamps_of_quiet injects (acceptedTouches_of_error answer) _
  · obtain ⟨sweeps, settled⟩ := sweeps_of_swipes goes SwipePath.spacing_plan_pos
      (Nat.add_le_add injects.clock (Nat.le_of_eq (Nat.mul_one _))) injects.clock
    rw [run]
    refine ⟨_, injects.trans goes.injects, ?_⟩
    rw [List.singleton_append, acceptedTouches_of_ok answer]
    refine ⟨?_, ?_⟩
    · -- The finger comes down at the clock, and whatever follows is stamped later.
      apply sweeps.gesture.cons (Pointer.downTime_contact ..) (Nat.le_refl _)
      intro later member
      refine ⟨(sweeps.gesture.stamped later member).2, fun _ notUp => ?_⟩
      obtain ⟨takesTime, inTime⟩ := sweeps.moves later member notUp
      rw [Nat.mul_one] at inTime
      exact Nat.lt_of_lt_of_le (Nat.lt_add_of_pos_right takesTime) inTime
    · intro uncut touch member
      rcases List.mem_cons.mp member with isFirst | isOther
      · rw [isFirst, Pointer.eventTime_contact]
        exact Nat.le_trans injects.clock goes.injects.clock
      · exact settled uncut touch isOther

/-! ## Taps -/

private theorem stamps_tap (arguments : Request.Tap) (console : Console σ) :
    Stamps console ((tap arguments).run console).2 True := by
  obtain ⟨upTime, first, second, _, isLater, inTime, injects⟩ := tap_cases arguments console
  let pointer := console.pointer.moveTo arguments.x arguments.y arguments.pressure
  let down := TouchEvent.touch console.clock console.clock .down pointer arguments.buttons
  let up := TouchEvent.touch console.clock upTime .up pointer arguments.buttons
  have whole : Gesture console.clock [down, up] := by
    have lifts : Gesture console.clock [up] := .single rfl isLater
    apply lifts.cons rfl (Nat.le_refl _)
    intro later member
    rw [List.mem_singleton.mp member]
    exact ⟨isLater, fun _ notUp => absurd rfl notUp⟩
  have accepted : (acceptedTouches
      [{ event := .touch down, display := console.display, answer := first },
        { event := .touch up, display := console.display, answer := second }]).Sublist
        [down, up] := by
    match first, second with
    | .ok (), .ok () => exact .refl _
    | .ok (), .error _ => exact .cons_cons down (List.nil_sublist _)
    | .error _, .ok () => exact .cons down (.refl _)
    | .error _, .error _ => exact List.nil_sublist _
  refine ⟨_, injects, whole.sublist accepted, ?_⟩
  intro _ touch member
  rcases List.mem_cons.mp (accepted.subset member) with isDown | isUp
  · rw [isDown]
    exact Nat.le_trans isLater inTime
  · rw [List.mem_singleton.mp isUp]
    exact inTime

/-! ## Request lines -/

private theorem stamps_carryOut (command : Command) (console : Console σ) :
    Stamps console ((carryOut command).run console).2
      (((carryOut command).run console).1 ≠ .error .interrupted) := by
  cases command with
  | tap arguments => exact (stamps_tap arguments console).mono fun _ => trivial
  | swipe arguments => exact stamps_swipe arguments console
  | key arguments =>
      obtain ⟨calls, injects, keys⟩ := injects_pressKey arguments console
      exact stamps_of_quiet injects (acceptedTouches_of_keys keys) _

/-- The touch events of a request line make up one gesture, and when the line
has its reply, the gesture is settled. -/
theorem stamps_dispatch (line : String) (console : Console σ) :
    Stamps console ((dispatch line).run console).2
      (((dispatch line).run console).1 ≠ .error .shutdown) := by
  rcases dispatch_cases line console with
    noCommand | ⟨refusal, run⟩ | ⟨command, _, run⟩
  · obtain ⟨calls, injects, keys⟩ := injects_of_no_command noCommand console
    exact stamps_of_quiet injects (acceptedTouches_of_keys keys) _
  · rw [run]
    exact stamps_of_quiet (.refl console) rfl _
  · rw [run]
    apply ((stamps_carryOut command console).idle (injects_gestureReply _ _)).mono
    intro replied cut
    exact replied (by rw [cut]; rfl)

end Console

end RemoteInput
