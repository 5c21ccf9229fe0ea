import RemoteInput.Device.InMemory
import RemoteInput.Proofs.Console.Touches
import RemoteInput.Proofs.Session.Transcript

/-!
# Conversations

All commands share one pointer, and whatever was done with it shows in where it
is.  But it stays the finger, and every gesture puts it somewhere before it
touches the screen.  So a dispatcher answers request lines in the same way
whatever it was used for before, and each line makes the touch events that are
known from the line alone: `no_leak_between_commands`.
-/

namespace RemoteInput

namespace Console

variable {σ : Type}

/-! ## Fingers in different places -/

/-- Two outcomes that differ in nothing but the pointers of their consoles. -/
def Agree {α : Type} (one other : α × Console σ) : Prop :=
  ∃ pointer, other = (one.1, { one.2 with pointer })

private theorem point_bind {α : Type} (x y : Int32) (pressure : Binary32)
    (next : Act σ α) {console : Console σ} (finger : console.pointer.IsFinger)
    {pointer : Pointer} (fingerToo : pointer.IsFinger) :
    (point x y pressure >>= fun _ => next).run { console with pointer } =
      (point x y pressure >>= fun _ => next).run console := by
  have run : ∀ start : Console σ, (point x y pressure).run start =
      ((), { start with pointer := start.pointer.moveTo x y pressure }) :=
    fun _ => rfl
  rw [StateT.run_bind, StateT.run_bind, run, run, finger.moveTo_eq]
  rw [fingerToo.moveTo_eq]

private theorem agree_withArguments {α : Type} (arguments : Except Refusal α)
    {carryOut : α → Act σ (Except GestureError Unit)} {console : Console σ}
    {pointer : Pointer}
    (same : ∀ value, (carryOut value).run { console with pointer } =
      (carryOut value).run console) :
    Agree ((withArguments arguments carryOut).run console)
      ((withArguments arguments carryOut).run { console with pointer }) := by
  cases arguments with
  | error refusal => exact ⟨pointer, rfl⟩
  | ok value =>
      simp only [withArguments, StateT.run_bind, same]
      exact ⟨_, rfl⟩

variable [Device σ]

section

variable {console : Console σ} (finger : console.pointer.IsFinger) {pointer : Pointer}
  (fingerToo : pointer.IsFinger)

include finger fingerToo

private theorem tap_of_finger (arguments : Request.Tap) :
    (tap arguments).run { console with pointer } = (tap arguments).run console :=
  point_bind _ _ _ _ finger fingerToo

private theorem swipe_of_finger (arguments : Request.Swipe) :
    (swipe arguments).run { console with pointer } = (swipe arguments).run console := by
  let path := SwipePath.plan ⟨arguments.x1, arguments.y1⟩
    ⟨arguments.x2, arguments.y2⟩ arguments.duration
  let rest : Nat → GestureAct σ Unit := fun downTime => do
    follow path downTime path.moveCount 1
    let upTime ← ExceptT.lift now
    contact downTime upTime .up path.finish
  have begun : ∀ start : Console σ, (swipe arguments).run start =
      (contact start.clock start.clock .down path.start >>= fun _ =>
        rest start.clock).run.run start :=
    fun _ => rfl
  rw [begun, begun, ExceptT.run_bind, contact, ExceptT.run_mk, bind_assoc]
  exact point_bind _ _ _ _ finger fingerToo

end

private theorem agree_serveRequest (request : Request) {console : Console σ}
    (finger : console.pointer.IsFinger) {pointer : Pointer}
    (fingerToo : pointer.IsFinger) :
    Agree ((serveRequest request).run console)
      ((serveRequest request).run { console with pointer }) := by
  cases gesture : request.verb.isGesture with
  | false => exact ⟨pointer, (plain_serveRequest gesture).blind.pointed pointer console⟩
  | true =>
      obtain ⟨verb, arguments⟩ := request
      cases verb with
      | tap => exact agree_withArguments _ (tap_of_finger finger fingerToo)
      | swipe => exact agree_withArguments _ (swipe_of_finger finger fingerToo)
      | drag => exact agree_withArguments _ (swipe_of_finger finger fingerToo)
      | _ => cases gesture

/-- Wherever the finger was last, a request line comes to the same. -/
theorem agree_dispatch (line : String) {console : Console σ}
    (finger : console.pointer.IsFinger) {pointer : Pointer}
    (fingerToo : pointer.IsFinger) :
    Agree ((dispatch line).run console) ((dispatch line).run { console with pointer }) := by
  cases read : Request.ofLine line with
  | error refusal =>
      rw [run_dispatch_of_error read, run_dispatch_of_error read]
      exact ⟨pointer, rfl⟩
  | ok request =>
      rw [run_dispatch read, run_dispatch read]
      dsimp only
      split
      · exact ⟨pointer, rfl⟩
      · exact agree_serveRequest request finger fingerToo

/-! ## Dispatchers in use -/

/-- A console that was opened with a fresh pointer.  Since then it has served
request lines and woken the display, and everything around it may have changed. -/
inductive InUse : Console σ → Prop where
  | opened {console : Console σ} (fresh : console.pointer = .initial) :
      InUse (begin.run console).2
  | served {console : Console σ} (inUse : InUse console) (line : String) :
      InUse ((dispatch line).run console).2
  | woken {console : Console σ} (inUse : InUse console) (enabled : Bool) :
      InUse ((wake enabled).run console).2
  | elsewhere {console after : Console σ} (inUse : InUse console)
      (display : after.display = console.display)
      (acceptsInput : after.acceptsInput = console.acceptsInput)
      (pointer : after.pointer = console.pointer) : InUse after

theorem InUse.finger {console : Console σ} (inUse : InUse console) :
    console.pointer.IsFinger := by
  induction inUse with
  | @opened console fresh =>
      have plain : Plain (fun _ => True)
          (ask (.inputCapable console.display) : Act σ Bool) :=
        .ask trivial
      have asked := plain.blind.pointer console
      have kept : (begin.run console).2.pointer = console.pointer := by
        rw [run_begin]
        dsimp only
        split
        · exact asked
        · exact asked
      rw [kept, fresh]
      exact Pointer.isFinger_initial
  | served _ line finger => exact (composed_dispatch line).finger finger
  | woken _ enabled finger => exact (plain_wake enabled).composed.finger finger
  | elsewhere _ _ _ pointer finger =>
      rw [pointer]
      exact finger

theorem InUse.serveLines {console : Console σ} (inUse : InUse console)
    (lines : List String) : InUse ((serveLines lines).run console).2 := by
  induction lines generalizing console with
  | nil => exact inUse
  | cons line rest induction =>
      rw [run_serveLines_cons]
      exact induction (inUse.served line)

/-- Two consoles that differ in nothing but their pointers and their journals. -/
structure Alike (first second : Console σ) : Prop where
  moment : second.toMoment = first.toMoment
  display : second.display = first.display
  acceptsInput : second.acceptsInput = first.acceptsInput
  device : second.device = first.device
  oversleep : second.oversleep = first.oversleep
  shutdown : second.shutdown = first.shutdown
  watch : second.watch = first.watch

/-! ## Conversations -/

/-- A request line that comes at a given moment, or as soon as it is awaited. -/
structure Message where
  line : String
  moment : Option Moment := none

/-- Serves a request line that comes. -/
def hear (console : Console σ) (message : Message) : Exchange × Console σ :=
  exchange { moment := message.moment.getD console.toMoment, line := message.line } console

/-- Serves request lines one after the other. -/
def converse (console : Console σ) : List Message → List Exchange
  | [] => []
  | message :: messages =>
      (console.hear message).1 :: converse (console.hear message).2 messages

theorem InUse.hear {console : Console σ} (inUse : InUse console) (message : Message) :
    InUse (console.hear message).2 := by
  have begun : InUse { console with
      toMoment := message.moment.getD console.toMoment, journal := #[] } :=
    inUse.elsewhere rfl rfl rfl
  exact begun.served message.line

theorem acceptsInput_hear (console : Console σ) (message : Message) :
    (console.hear message).2.acceptsInput = console.acceptsInput := by
  obtain ⟨_, injects, _⟩ := (composed_dispatch message.line).injects
    { console with toMoment := message.moment.getD console.toMoment, journal := #[] }
  exact injects.acceptsInput

/-- Every exchange of a conversation is what a console in use hears. -/
theorem InUse.mem_converse {console : Console σ} (inUse : InUse console) {messages : List Message}
    {exchange : Exchange} (member : exchange ∈ console.converse messages) :
    ∃ (earlier : Console σ) (message : Message), earlier.InUse ∧
      earlier.acceptsInput = console.acceptsInput ∧ exchange = (earlier.hear message).1 := by
  induction messages generalizing console with
  | nil => cases member
  | cons message messages induction =>
      rcases List.mem_cons.mp member with rfl | isLater
      · exact ⟨console, message, inUse, rfl, rfl⟩
      · obtain ⟨earlier, other, isUsed, same, heard⟩ := induction (inUse.hear message) isLater
        exact ⟨earlier, other, isUsed, same.trans (console.acceptsInput_hear message), heard⟩

/-- Consoles that are alike hear the same, and are alike after it. -/
theorem Alike.hear {first second : Console σ} (alike : Alike first second)
    (finger : first.pointer.IsFinger) (fingerToo : second.pointer.IsFinger)
    (message : Message) :
    (second.hear message).1 = (first.hear message).1 ∧
      Alike (first.hear message).2 (second.hear message).2 := by
  let start : Console σ :=
    { first with toMoment := message.moment.getD first.toMoment, journal := #[] }
  have same : { second with
      toMoment := message.moment.getD second.toMoment, journal := #[] } =
      { start with pointer := second.pointer } := by
    simp [start, alike.moment, alike.display, alike.acceptsInput, alike.device,
      alike.oversleep, alike.shutdown, alike.watch]
  have startFinger : start.pointer.IsFinger := finger
  obtain ⟨pointer, agrees⟩ := agree_dispatch message.line startFinger fingerToo
  simp only [Console.hear, exchange, same, agrees]
  exact ⟨rfl, ⟨rfl, rfl, rfl, rfl, rfl, rfl, rfl⟩⟩

theorem line_converse (console : Console σ) (messages : List Message) :
    (console.converse messages).map Exchange.line = messages.map Message.line := by
  induction messages generalizing console with
  | nil => rfl
  | cons message messages induction =>
      rw [converse, List.map_cons, List.map_cons, induction]
      rfl

theorem Alike.converse {first second : Console σ} (alike : Alike first second)
    (inUse : InUse first) (inUseToo : InUse second) (messages : List Message) :
    second.converse messages = first.converse messages := by
  induction messages generalizing first second with
  | nil => rfl
  | cons message messages induction =>
      obtain ⟨same, goesOn⟩ := alike.hear inUse.finger inUseToo.finger message
      rw [Console.converse, Console.converse, same,
        induction goesOn (inUse.hear message) (inUseToo.hear message)]

/-- The touch events of an exchange are those of its line, up to some point. -/
theorem InUse.outline_hear {console : Console σ} (inUse : InUse console)
    (message : Message) :
    (touches (console.hear message).1.events).map TouchEvent.untimed <+:
      Request.touches message.line := by
  let start : Console σ := { console with
    toMoment := message.moment.getD console.toMoment, journal := #[] }
  have finger : start.pointer.IsFinger := inUse.finger
  obtain ⟨calls, injects, outline⟩ := outline_dispatch message.line finger
  obtain ⟨events, proceeds, _, injected⟩ := injects.journal
  have isJournal : (console.hear message).1.events = events := proceeds.journal
  rw [isJournal, touches, injected]
  exact outline

theorem InUse.outline_converse {console : Console σ} (inUse : InUse console)
    (messages : List Message) :
    ∀ exchange ∈ console.converse messages,
      (touches exchange.events).map TouchEvent.untimed <+: Request.touches exchange.line := by
  intro exchange member
  obtain ⟨earlier, message, isUsed, _, rfl⟩ := inUse.mem_converse member
  exact isUsed.outline_hear message

/-- Dispatchers on the same display that take input or do not, at the same moment
and with the same device, serve request lines alike, whatever they were used for
before: they give the same replies and ask the same of the device, with the same
time stamps.  All touch events are made by the one finger, and but for the time
stamps those of a line are known from the line alone. -/
theorem no_leak_between_commands {first second : Console σ} (inUse : first.InUse)
    (inUseToo : second.InUse) (alike : first.Alike second) (messages : List Message) :
    second.converse messages = first.converse messages ∧
      (first.converse messages).map Exchange.line = messages.map Message.line ∧
      ∀ exchange ∈ first.converse messages,
        (∀ touch ∈ touches exchange.events, touch.ByFinger) ∧
          (touches exchange.events).map TouchEvent.untimed <+:
            Request.touches exchange.line := by
  refine ⟨alike.converse inUse inUseToo messages, line_converse first messages, ?_⟩
  intro exchange member
  have outline := inUse.outline_converse messages exchange member
  refine ⟨?_, outline⟩
  intro touch isTouch
  apply TouchEvent.ByFinger.of_untimed
  apply Request.byFinger_touches exchange.line
  exact outline.subset (List.mem_map_of_mem isTouch)

theorem no_leak_between_commands_of_swipe :
    let fresh : Console InMemoryDevice := .start .primary { keepsEvents := false } {}
    let opened := (begin.run fresh).2
    let first := ((serveLines ["SWIPE 1 2 30 40 0"]).run opened).2
    let second := ((serveLines ["KEYCODE 4 down", "KEYCODE 4 up"]).run opened).2
    let messages : List Message := [⟨"TAP 5 6", none⟩, ⟨"SWIPE 0 0 50 0 48", none⟩]
    first.InUse ∧ second.InUse ∧ first.Alike second ∧ first.pointer ≠ second.pointer ∧
      second.converse messages = first.converse messages := by
  intro fresh opened first second messages
  have opens : opened.InUse := .opened rfl
  have inUse : first.InUse := opens.serveLines _
  have inUseToo : second.InUse := opens.serveLines _
  have oversleeps : ∀ lines, ((serveLines lines).run opened).2.oversleep =
      opened.oversleep := by
    intro lines
    obtain ⟨_, injects, _⟩ := (composed_serveLines lines).injects opened
    exact injects.oversleep
  have alike : first.Alike second := by
    constructor
    · decide +kernel
    · decide +kernel
    · decide +kernel
    · decide +kernel
    · exact (oversleeps _).trans (oversleeps _).symm
    · decide +kernel
    · decide +kernel
  have same := (no_leak_between_commands inUse inUseToo alike messages).1
  exact ⟨inUse, inUseToo, alike, by decide +kernel, same⟩

end Console

end RemoteInput
