import RemoteInput.Proofs.Console.Commands

/-!
# The touch events of a line

Which touch events a command makes, and where, is known from the command alone:
`Command.touches`.  Only their time stamps are not, and how many of them are
made.  So nothing that a gesture leaves in the pointer shows in the next one.
-/

namespace RemoteInput

namespace TouchEvent

/-- A touch event without its time stamps. -/
def untimed (touch : TouchEvent) : TouchEvent :=
  { touch with downTime := 0, eventTime := 0 }

/-- The finger touches the screen. -/
structure ByFinger (touch : TouchEvent) : Prop where
  finger : touch.pointer.IsFinger
  device : touch.deviceId = 0
  source : touch.source = .touchscreen

theorem ByFinger.of_untimed {touch : TouchEvent} (byFinger : touch.untimed.ByFinger) :
    touch.ByFinger :=
  ⟨byFinger.finger, byFinger.device, byFinger.source⟩

theorem byFinger_touch {pointer : Pointer} (finger : pointer.IsFinger)
    (downTime eventTime : Nat) (action : TouchAction) (buttons : Int32) :
    (touch downTime eventTime action pointer buttons).ByFinger :=
  ⟨finger, rfl, rfl⟩

end TouchEvent

/-- A touch event of a finger without its time stamps could be the first of all. -/
theorem Pointer.IsFinger.untimed_touch {pointer : Pointer} (finger : pointer.IsFinger)
    (downTime eventTime : Nat) (action : TouchAction) (x y : Int32) (pressure : Binary32)
    (buttons : Int32) :
    (TouchEvent.touch downTime eventTime action (pointer.moveTo x y pressure)
        buttons).untimed =
      .touch 0 0 action (Pointer.initial.moveTo x y pressure) buttons := by
  rw [finger.moveTo_eq, Pointer.isFinger_initial.moveTo_eq]
  rfl

theorem Pointer.IsFinger.untimed_contact {pointer : Pointer} (finger : pointer.IsFinger)
    (downTime eventTime : Nat) (action : TouchAction) (place : Point) :
    (pointer.contact downTime eventTime action place).untimed =
      Pointer.initial.contact 0 0 action place :=
  finger.untimed_touch downTime eventTime action place.x place.y _ _

/-! ## Plans -/

/-- What is left of a swipe, a number of moves before its end and from the waypoint
with an index on. -/
def SwipePath.outline (path : SwipePath) (left index : Nat) : List TouchEvent :=
  (List.range' index left).map (fun index =>
      Pointer.initial.contact 0 0 .move (path.waypoint index).point) ++
    [Pointer.initial.contact 0 0 .up path.finish]

theorem SwipePath.outline_succ (path : SwipePath) (left index : Nat) :
    path.outline (left + 1) index =
      Pointer.initial.contact 0 0 .move (path.waypoint index).point ::
        path.outline left (index + 1) := by
  simp [outline, List.range'_succ]

/-- The touch events of a command, without their time stamps. -/
def Command.touches : Command → List TouchEvent
  | .tap arguments =>
      let pointer := Pointer.initial.moveTo arguments.x arguments.y arguments.pressure
      [.touch 0 0 .down pointer arguments.buttons, .touch 0 0 .up pointer arguments.buttons]
  | .swipe arguments =>
      let path := SwipePath.plan ⟨arguments.x1, arguments.y1⟩
        ⟨arguments.x2, arguments.y2⟩ arguments.duration
      Pointer.initial.contact 0 0 .down path.start :: path.outline path.moveCount 1
  | .key _ => []

/-- The touch events of a request line, without their time stamps. -/
def Request.touches (line : String) : List TouchEvent :=
  match Command.ofLine? line with
  | some (.ok command) => command.touches
  | some (.error _) | none => []

theorem SwipePath.mem_outline {path : SwipePath} {left index : Nat} {touch : TouchEvent}
    (member : touch ∈ path.outline left index) :
    ∃ action place, touch = Pointer.initial.contact 0 0 action place := by
  rcases List.mem_append.mp member with isMove | isUp
  · obtain ⟨index, _, rfl⟩ := List.mem_map.mp isMove
    exact ⟨.move, _, rfl⟩
  · exact ⟨.up, _, List.mem_singleton.mp isUp⟩

/-- Where a touch event of a command is, and with which pressure. -/
theorem Command.mem_touches {command : Command} {touch : TouchEvent}
    (member : touch ∈ command.touches) :
    ∃ action x y pressure buttons,
      touch = .touch 0 0 action (Pointer.initial.moveTo x y pressure) buttons ∧
        (pressure = Request.fullPressure ∨
          ∃ arguments, command = .tap arguments ∧ pressure = arguments.pressure) := by
  cases command with
  | tap arguments =>
      simp only [touches, List.mem_cons, List.not_mem_nil, or_false] at member
      rcases member with rfl | rfl
      · exact ⟨_, _, _, _, _, rfl, .inr ⟨arguments, rfl, rfl⟩⟩
      · exact ⟨_, _, _, _, _, rfl, .inr ⟨arguments, rfl, rfl⟩⟩
  | swipe arguments =>
      rcases List.mem_cons.mp member with rfl | isLater
      · exact ⟨_, _, _, _, _, rfl, .inl rfl⟩
      · obtain ⟨action, place, rfl⟩ := SwipePath.mem_outline isLater
        exact ⟨_, _, _, _, _, rfl, .inl rfl⟩
  | key arguments => cases member

theorem Command.byFinger_touches (command : Command) :
    ∀ touch ∈ command.touches, touch.ByFinger := by
  intro touch member
  obtain ⟨action, x, y, pressure, buttons, rfl, _⟩ := mem_touches member
  exact TouchEvent.byFinger_touch (Pointer.isFinger_initial.moveTo x y pressure) 0 0 action buttons

theorem Request.byFinger_touches (line : String) :
    ∀ touch ∈ touches line, touch.ByFinger := by
  intro touch member
  unfold touches at member
  split at member
  · next command _ => exact command.byFinger_touches touch member
  · cases member
  · cases member

/-! ## What is made of plans -/

/-- The touch event of an injection, whether it was accepted or not. -/
def Injected.attempted? (injected : Injected) : Option TouchEvent :=
  match injected.event with
  | .touch touch => some touch
  | .press _ | .key _ => none

/-- The touch events of some injections, without their time stamps. -/
def attempted (calls : List Injected) : List TouchEvent :=
  (calls.filterMap Injected.attempted?).map TouchEvent.untimed

/-- The touch events that are made in some events, accepted or not. -/
def touches (events : List Event) : List TouchEvent :=
  (injections events).filterMap Injected.attempted?

theorem attempted_of_keys {calls : List Injected}
    (keys : ∀ call ∈ calls, ∀ touch, call.event ≠ .touch touch) : attempted calls = [] := by
  rw [attempted, List.map_eq_nil_iff, List.filterMap_eq_nil_iff]
  intro call member
  obtain ⟨event, display, answer⟩ := call
  cases event with
  | press code => rfl
  | key event => rfl
  | touch touch => exact absurd rfl (keys _ member touch)

namespace Console

variable {σ : Type} [Device σ]

theorem attempted_attempt (touch : TouchEvent) (console : Console σ)
    (calls : List Injected) :
    attempted (attempt touch console :: calls) = touch.untimed :: attempted calls := by
  rfl

theorem Swipes.outline {path : SwipePath} {downTime left index : Nat}
    {console after : Console σ} {calls : List Injected}
    {result : Except GestureError Unit}
    (goes : Swipes path downTime left index console calls result after)
    (finger : console.pointer.IsFinger) :
    attempted calls <+: path.outline left index := by
  induction goes with
  | @lifted index console touch planned =>
      rw [attempted_attempt, planned, finger.untimed_contact]
      exact List.prefix_rfl
  | @refused left index console touch error planned answer =>
      rw [attempted_attempt, planned, SwipePath.moveAt, finger.untimed_contact,
        SwipePath.outline_succ]
      exact (List.prefix_cons_inj _).mpr (List.nil_prefix ..)
  | @cut left index console after touch planned answer slept =>
      rw [attempted_attempt, planned, SwipePath.moveAt, finger.untimed_contact,
        SwipePath.outline_succ]
      exact (List.prefix_cons_inj _).mpr (List.nil_prefix ..)
  | @paused left index console next after touch calls result planned answer slept _
      induction =>
      have later : next.pointer.IsFinger := by
        obtain ⟨moment, rfl, _⟩ := slept_true slept
        have moved : (contacted touch console).2.pointer.IsFinger := by
          rw [pointer_contacted, planned]
          exact finger.moveTo ..
        exact moved
      rw [attempted_attempt, planned, SwipePath.moveAt, finger.untimed_contact,
        SwipePath.outline_succ]
      exact (List.prefix_cons_inj _).mpr (induction later)

private theorem outline_swipe (arguments : Request.Swipe) {console : Console σ}
    (finger : console.pointer.IsFinger) :
    ∃ calls, Injects console calls ((swipe arguments).run console).2 ∧
      attempted calls <+: (Command.swipe arguments).touches := by
  let path := SwipePath.plan ⟨arguments.x1, arguments.y1⟩
    ⟨arguments.x2, arguments.y2⟩ arguments.duration
  let down := console.pointer.contact console.clock console.clock .down path.start
  have injects := injects_contacted down console
  have isDown : down.untimed = Pointer.initial.contact 0 0 .down path.start :=
    finger.untimed_contact ..
  rcases swipe_cases arguments console with
    ⟨error, answer, run⟩ | ⟨answer, calls, result, after, goes, run⟩
  · rw [run]
    refine ⟨_, injects, ?_⟩
    rw [attempted_attempt, isDown]
    exact (List.prefix_cons_inj _).mpr (List.nil_prefix ..)
  · have later : (contacted down console).2.pointer.IsFinger := by
      rw [pointer_contacted]
      exact finger.moveTo ..
    rw [run]
    refine ⟨_, injects.trans goes.injects, ?_⟩
    rw [List.singleton_append, attempted_attempt, isDown]
    exact (List.prefix_cons_inj _).mpr (goes.outline later)

private theorem outline_tap (arguments : Request.Tap) {console : Console σ}
    (finger : console.pointer.IsFinger) :
    ∃ calls, Injects console calls ((tap arguments).run console).2 ∧
      attempted calls <+: (Command.tap arguments).touches := by
  obtain ⟨upTime, first, second, _, _, _, injects⟩ := tap_cases arguments console
  refine ⟨_, injects, ?_⟩
  have down := finger.untimed_touch console.clock console.clock .down arguments.x arguments.y
    arguments.pressure arguments.buttons
  have up := finger.untimed_touch console.clock upTime .up arguments.x arguments.y
    arguments.pressure arguments.buttons
  simp only [attempted, List.filterMap_cons, Injected.attempted?, List.map_cons, down, up]
  exact List.prefix_rfl

private theorem outline_carryOut (command : Command) {console : Console σ}
    (finger : console.pointer.IsFinger) :
    ∃ calls, Injects console calls ((carryOut command).run console).2 ∧
      attempted calls <+: command.touches := by
  cases command with
  | tap arguments => exact outline_tap arguments finger
  | swipe arguments => exact outline_swipe arguments finger
  | key arguments =>
      obtain ⟨calls, injects, keys⟩ := injects_pressKey arguments console
      refine ⟨calls, injects, ?_⟩
      rw [attempted_of_keys keys]
      exact List.nil_prefix ..

/-- A request line makes its touch events, up to some point. -/
theorem outline_dispatch (line : String) {console : Console σ}
    (finger : console.pointer.IsFinger) :
    ∃ calls, Injects console calls ((dispatch line).run console).2 ∧
      attempted calls <+: Request.touches line := by
  rcases dispatch_cases line console with
    noCommand | ⟨refusal, run⟩ | ⟨command, isCommand, run⟩
  · obtain ⟨calls, injects, keys⟩ := injects_of_no_command noCommand console
    refine ⟨calls, injects, ?_⟩
    rw [attempted_of_keys keys]
    exact List.nil_prefix ..
  · rw [run]
    exact ⟨[], .refl console, List.nil_prefix ..⟩
  · obtain ⟨calls, injects, outlines⟩ := outline_carryOut command finger
    rw [run]
    refine ⟨calls, injects.idle (injects_gestureReply _ _), ?_⟩
    simpa only [Request.touches, isCommand] using outlines

/-- The finger stays the finger. -/
theorem Composed.finger {α : Type} {asked : Call → Prop} {act : Act σ α}
    (composed : Composed asked act) {console : Console σ}
    (finger : console.pointer.IsFinger) : (act.run console).2.pointer.IsFinger := by
  induction composed generalizing console with
  | pure value => exact finger
  | bind _ _ first later => exact later _ (first finger)
  | look blind => exact finger
  | aim steady => exact steady _ finger
  | @ask call isAsked =>
      rw [(Plain.ask isAsked).blind.pointer]
      exact finger
  | sleep duration =>
      have plain : Plain (fun _ => False) (Console.sleep duration : Act σ Bool) :=
        .sleep duration
      rw [plain.blind.pointer]
      exact finger
  | note severity message fields => exact finger

end Console

end RemoteInput
