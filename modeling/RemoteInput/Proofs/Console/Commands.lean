import RemoteInput.Proofs.Console.Swiping
import RemoteInput.Proofs.Request.Arguments

/-!
# What commands inject

A tap makes both of its touch events, whatever the device answers to the first.
A swipe makes its touch events up to the first that fails.  A key command makes
at most one injection.  `Command.Makes` says this of the injections of a
command, and `makes_carryOut` proves it of every command that is not cut short.
-/

namespace RemoteInput

namespace Injected

/-- The device accepted the injection. -/
def accepted (injected : Injected) : Bool :=
  injected.answer.isOk

/-- The phase of a gesture that an injected touch event is. -/
def action? (injected : Injected) : Option TouchAction :=
  match injected.event with
  | .touch touch => some touch.action
  | .press _ | .key _ => none

theorem findIdx_refused_cons {call : Injected} (accepted : call.accepted = true)
    (calls : List Injected) :
    (call :: calls).findIdx (fun call => !call.accepted) =
      calls.findIdx (fun call => !call.accepted) + 1 := by
  simp [List.findIdx_cons, accepted]

end Injected

/-! ## Gestures that end at a failure -/

/-- The injections are the planned phases of a gesture up to the first that
fails. -/
def EndsAtFailure (planned : List TouchAction) (calls : List Injected) : Prop :=
  calls.map Injected.action? =
    (planned.map some).take (calls.findIdx (fun call => !call.accepted) + 1)

theorem endsAtFailure_nil : EndsAtFailure [] [] := rfl

theorem endsAtFailure_of_refused {action : TouchAction} {call : Injected}
    (isPlanned : call.action? = some action) (refused : call.accepted = false)
    (rest : List TouchAction) : EndsAtFailure (action :: rest) [call] := by
  simp [EndsAtFailure, List.findIdx_cons, isPlanned, refused]

theorem EndsAtFailure.cons {action : TouchAction} {rest : List TouchAction}
    {call : Injected} {calls : List Injected}
    (ends : EndsAtFailure rest calls) (isPlanned : call.action? = some action)
    (accepted : call.accepted = true) :
    EndsAtFailure (action :: rest) (call :: calls) := by
  rw [EndsAtFailure, Injected.findIdx_refused_cons accepted, List.map_cons, List.map_cons,
    List.take_succ_cons, isPlanned, ends]

theorem EndsAtFailure.ne_nil {action : TouchAction} {rest : List TouchAction}
    {calls : List Injected} (ends : EndsAtFailure (action :: rest) calls) :
    calls ≠ [] := by
  intro nothing
  subst nothing
  cases ends

/-! ## Commands -/

/-- The injections of a key command: one, or none for an unrecognized word. -/
def Request.KeyPress.injections (key : Request.KeyPress) : List Injection :=
  match key.action with
  | .down => [.key (.down key.code)]
  | .up => [.key (.up key.code)]
  | .both => [.press key.code]
  | .unrecognized _ => []

/-- A command that injects a gesture or a key, with its arguments. -/
inductive Command where
  | tap (arguments : Request.Tap)
  | swipe (arguments : Request.Swipe)
  | key (arguments : Request.KeyPress)

namespace Command

/-- The command of a request, or why its arguments are refused; none for a
request of something else. -/
def ofRequest? (request : Request) : Option (Except Refusal Command) :=
  match request.verb with
  | .tap => some ((Request.Tap.ofArguments request.arguments).map .tap)
  | .swipe | .drag => some ((Request.Swipe.ofArguments request.arguments).map .swipe)
  | .keycode => some ((Request.KeyPress.ofArguments request.arguments).map .key)
  | .ping | .clipGet | .clipSet | .text | .unknown _ => none

def ofLine? (line : String) : Option (Except Refusal Command) :=
  match Request.ofLine line with
  | .ok request => ofRequest? request
  | .error _ => none

/-- A command, and a request that asks for it. -/
inductive Requested : Command → Request → Prop where
  | tap {text : String} {arguments : Request.Tap}
      (read : Request.Tap.ofArguments text = .ok arguments) :
      Requested (.tap arguments) ⟨.tap, text⟩
  | swipe {verb : Verb} {text : String} {arguments : Request.Swipe}
      (isVerb : verb = .swipe ∨ verb = .drag)
      (read : Request.Swipe.ofArguments text = .ok arguments) :
      Requested (.swipe arguments) ⟨verb, text⟩
  | key {text : String} {arguments : Request.KeyPress}
      (read : Request.KeyPress.ofArguments text = .ok arguments) :
      Requested (.key arguments) ⟨.keycode, text⟩

theorem requested_of_ofLine {line : String} {command : Command}
    (isCommand : ofLine? line = some (.ok command)) :
    ∃ request, Request.ofLine line = .ok request ∧ command.Requested request := by
  have read_of_map : ∀ {α : Type} {read : Except Refusal α} {change : α → Command},
      some (read.map change) = some (.ok command) →
        ∃ value, read = .ok value ∧ change value = command := by
    intro α read change same
    cases read with
    | error refusal => cases same
    | ok value =>
        cases same
        exact ⟨value, rfl, rfl⟩
  unfold ofLine? at isCommand
  cases read : Request.ofLine line with
  | error refusal =>
      rw [read] at isCommand
      cases isCommand
  | ok request =>
      rw [read] at isCommand
      obtain ⟨verb, text⟩ := request
      refine ⟨_, rfl, ?_⟩
      cases verb with
      | tap =>
          obtain ⟨_, isRead, rfl⟩ := read_of_map isCommand
          exact .tap isRead
      | swipe =>
          obtain ⟨_, isRead, rfl⟩ := read_of_map isCommand
          exact .swipe (.inl rfl) isRead
      | drag =>
          obtain ⟨_, isRead, rfl⟩ := read_of_map isCommand
          exact .swipe (.inr rfl) isRead
      | keycode =>
          obtain ⟨_, isRead, rfl⟩ := read_of_map isCommand
          exact .key isRead
      | _ => cases isCommand

/-- Why the arguments of a command may be refused. -/
def refusals : List Refusal :=
  [.invalidArguments, .invalidCoordinates, .invalidPressure, .invalidButtons,
    .invalidKeycode]

theorem refusesAs_ofRequest {request : Request} {arguments : Except Refusal Command}
    (isCommand : ofRequest? request = some arguments) :
    Request.RefusesAs refusals arguments := by
  obtain ⟨verb, text⟩ := request
  cases verb with
  | tap =>
      cases isCommand
      exact ((Request.refusesAs_tap text).mono (by decide)).map _
  | swipe =>
      cases isCommand
      exact ((Request.refusesAs_swipe text).mono (by decide)).map _
  | drag =>
      cases isCommand
      exact ((Request.refusesAs_swipe text).mono (by decide)).map _
  | keycode =>
      cases isCommand
      exact ((Request.refusesAs_keyPress text).mono (by decide)).map _
  | _ => cases isCommand

theorem refusesAs_ofLine {line : String} {arguments : Except Refusal Command}
    (isCommand : ofLine? line = some arguments) : Request.RefusesAs refusals arguments := by
  unfold ofLine? at isCommand
  cases found : Request.ofLine line with
  | error refusal =>
      rw [found] at isCommand
      cases isCommand
  | ok request =>
      rw [found] at isCommand
      exact refusesAs_ofRequest isCommand

/-- The command says something that can be done. -/
def isKnown : Command → Bool
  | .tap _ | .swipe _ => true
  | .key arguments =>
      match arguments.action with
      | .unrecognized _ => false
      | _ => true

/-- The injections that a command comes to. -/
def Makes : Command → List Injected → Prop
  | .tap arguments, calls =>
      ∃ (earlier : Pointer) (downTime upTime : Nat) (display : DisplayId)
        (first second : Except DeviceError Unit),
        let pointer := earlier.moveTo arguments.x arguments.y arguments.pressure
        calls =
          [{ event := .touch (.touch downTime downTime .down pointer arguments.buttons)
             display
             answer := first },
           { event := .touch (.touch downTime upTime .up pointer arguments.buttons)
             display
             answer := second }]
  | .swipe arguments, calls =>
      let path := SwipePath.plan ⟨arguments.x1, arguments.y1⟩
        ⟨arguments.x2, arguments.y2⟩ arguments.duration
      calls ≠ [] ∧
        EndsAtFailure (.down :: (List.replicate path.moveCount .move ++ [.up])) calls
  | .key arguments, calls => calls.map Injected.event = arguments.injections

end Command

/-- The verb of a request line, if it has a keyword. -/
def Request.verb? (line : String) : Option Verb :=
  (Request.ofLine line).toOption.map Request.verb

namespace Console

variable {σ : Type}

/-! ## What is noted and replied -/

private theorem injects_noteTapFailure (half : String) (arguments : Request.Tap)
    (result : Except DeviceError Unit) (console : Console σ) :
    Injects console [] ((noteTapFailure half arguments result).run console).2 := by
  cases result with
  | ok => exact .refl console
  | error error => exact injects_note _ _ _ console

private theorem pointer_noteTapFailure (half : String) (arguments : Request.Tap)
    (result : Except DeviceError Unit) (console : Console σ) :
    ((noteTapFailure half arguments result).run console).2.pointer = console.pointer := by
  cases result with
  | ok => rfl
  | error error => rfl

theorem injects_gestureReply (result : Except GestureError Unit) (console : Console σ) :
    Injects console [] ((gestureReply result).run console).2 := by
  match result with
  | .ok () => exact .refl console
  | .error .interrupted => exact .refl console
  | .error (.refused error) => exact injects_note _ _ _ console
  | .error (.unknownAction word) => exact injects_note _ _ _ console

/-- The reply to a gesture that was not cut short tells whether it succeeded. -/
theorem gestureReply_of_uncut {result : Except GestureError Unit}
    (uncut : result ≠ .error .interrupted) (console : Console σ) :
    ((gestureReply result).run console).1 =
      .ok (if result.isOk then .done else .err .injectFailed) := by
  match result with
  | .ok () => rfl
  | .error .interrupted => exact absurd rfl uncut
  | .error (.refused error) => rfl
  | .error (.unknownAction word) => rfl

variable [Device σ]

/-- Carries out a command. -/
def carryOut : Command → Act σ (Except GestureError Unit)
  | .tap arguments => tap arguments
  | .swipe arguments => swipe arguments
  | .key arguments => pressKey arguments

/-! ## Taps -/

/-- A tap puts the finger down and lifts it, whatever the device answers. -/
theorem tap_cases (arguments : Request.Tap) (console : Console σ) :
    let pointer := console.pointer.moveTo arguments.x arguments.y arguments.pressure
    let down := TouchEvent.touch console.clock console.clock .down pointer arguments.buttons
    ∃ upTime first second,
      let up := TouchEvent.touch console.clock upTime .up pointer arguments.buttons
      ((tap arguments).run console).1 = firstFailure first second ∧
        console.clock ≤ upTime ∧ upTime ≤ ((tap arguments).run console).2.clock ∧
        Injects console
          [{ event := .touch down, display := console.display, answer := first },
           { event := .touch up, display := console.display, answer := second }]
          ((tap arguments).run console).2 := by
  intro pointer down
  let touched := contacted down console
  let noted := (noteTapFailure "DOWN" arguments touched.1).run touched.2
  let up := TouchEvent.touch console.clock noted.2.clock .up noted.2.pointer arguments.buttons
  let lifted := (inject (.touch up)).run noted.2
  let last := (noteTapFailure "UP" arguments lifted.1).run lifted.2
  have run : (tap arguments).run console = (firstFailure touched.1 lifted.1, last.2) := rfl
  have downs : Injects console _ noted.2 :=
    (injects_contacted down console).idle (injects_noteTapFailure ..)
  have ups : Injects noted.2
      [{ event := .touch up, display := console.display, answer := lifted.1 }] last.2 := by
    rw [← downs.display]
    exact (injects_inject (.touch up) noted.2).idle (injects_noteTapFailure ..)
  have pointed : noted.2.pointer = pointer :=
    (pointer_noteTapFailure ..).trans (pointer_contacted down console)
  have isUp : up = .touch console.clock noted.2.clock .up pointer arguments.buttons :=
    congrArg (fun pointer => TouchEvent.touch console.clock noted.2.clock .up pointer
      arguments.buttons) pointed
  refine ⟨noted.2.clock, touched.1, lifted.1, congrArg Prod.fst run, downs.clock,
    ups.clock, ?_⟩
  rw [← isUp]
  exact downs.trans ups

/-! ## Swipes -/

private theorem accepted_attempt (touch : TouchEvent) (console : Console σ) :
    (attempt touch console).accepted = (contacted touch console).1.isOk :=
  rfl

private theorem accepted_of_ok {touch : TouchEvent} {console : Console σ}
    (answer : (contacted touch console).1 = .ok ()) :
    (attempt touch console).accepted = true := by
  rw [accepted_attempt, answer]
  rfl

private theorem refused_of_error {touch : TouchEvent} {console : Console σ}
    {error : DeviceError} (answer : (contacted touch console).1 = .error error) :
    (attempt touch console).accepted = false := by
  rw [accepted_attempt, answer]
  rfl

private theorem action?_attempt (touch : TouchEvent) (console : Console σ) :
    (attempt touch console).action? = some touch.action :=
  rfl

private theorem isOk_mapError {ε ε' : Type} (change : ε → ε') (result : Except ε Unit) :
    (result.mapError change).isOk = result.isOk := by
  cases result with
  | ok => rfl
  | error error => rfl

/-- A touch event that is the last of its gesture. -/
private theorem endsAtFailure_last {touch : TouchEvent} {action : TouchAction}
    (isPlanned : touch.action = action) (console : Console σ) :
    EndsAtFailure [action] [attempt touch console] := by
  have planned : (attempt touch console).action? = some action := congrArg some isPlanned
  cases accepted : (attempt touch console).accepted with
  | true => exact endsAtFailure_nil.cons planned accepted
  | false => exact endsAtFailure_of_refused planned accepted []

theorem Swipes.ends {path : SwipePath} {downTime left index : Nat}
    {console after : Console σ} {calls : List Injected}
    {result : Except GestureError Unit}
    (goes : Swipes path downTime left index console calls result after)
    (uncut : result ≠ .error .interrupted) :
    EndsAtFailure (List.replicate left .move ++ [.up]) calls ∧
      result.isOk = calls.all Injected.accepted := by
  induction goes with
  | @lifted index console touch planned =>
      refine ⟨endsAtFailure_last (by simp [planned]) console, ?_⟩
      rw [isOk_mapError, List.all_cons, accepted_attempt, List.all_nil, Bool.and_true]
  | @refused left index console touch error planned answer =>
      have refused := refused_of_error answer
      have isMove : (attempt touch console).action? = some .move := by
        rw [action?_attempt, planned, SwipePath.action_moveAt]
      refine ⟨endsAtFailure_of_refused isMove refused _, ?_⟩
      rw [List.all_cons, refused]
      rfl
  | cut planned answer slept => exact absurd rfl uncut
  | @paused left index console next after touch calls result planned answer slept _
      induction =>
      obtain ⟨ends, same⟩ := induction uncut
      have accepted := accepted_of_ok answer
      have isMove : (attempt touch console).action? = some .move := by
        rw [action?_attempt, planned, SwipePath.action_moveAt]
      refine ⟨ends.cons isMove accepted, ?_⟩
      rw [List.all_cons, accepted, same, Bool.true_and]

private theorem makes_swipe (arguments : Request.Swipe) {console : Console σ}
    (uncut : ((swipe arguments).run console).1 ≠ .error .interrupted) :
    ∃ calls, Injects console calls ((swipe arguments).run console).2 ∧
      (Command.swipe arguments).Makes calls ∧
      ((swipe arguments).run console).1.isOk = calls.all Injected.accepted := by
  let path := SwipePath.plan ⟨arguments.x1, arguments.y1⟩
    ⟨arguments.x2, arguments.y2⟩ arguments.duration
  let down := console.pointer.contact console.clock console.clock .down path.start
  have injects := injects_contacted down console
  have planned : (attempt down console).action? = some .down := by
    rw [action?_attempt, Pointer.action_contact]
  rcases swipe_cases arguments console with
    ⟨error, answer, run⟩ | ⟨answer, calls, result, after, goes, run⟩
  · have refused : (attempt down console).accepted = false := refused_of_error answer
    have ends := endsAtFailure_of_refused planned refused
      (List.replicate path.moveCount .move ++ [.up])
    rw [run]
    refine ⟨_, injects, ⟨ends.ne_nil, ends⟩, ?_⟩
    rw [List.all_cons, refused]
    rfl
  · have accepted : (attempt down console).accepted = true := accepted_of_ok answer
    rw [run] at uncut ⊢
    obtain ⟨moves, same⟩ := goes.ends uncut
    have ends := moves.cons planned accepted
    refine ⟨_, injects.trans goes.injects, ⟨ends.ne_nil, ends⟩, ?_⟩
    rw [List.singleton_append, List.all_cons, accepted, Bool.true_and]
    exact same

/-! ## All commands -/

private theorem makes_tap (arguments : Request.Tap) (console : Console σ) :
    ∃ calls, Injects console calls ((tap arguments).run console).2 ∧
      (Command.tap arguments).Makes calls ∧
      ((tap arguments).run console).1.isOk = calls.all Injected.accepted := by
  obtain ⟨upTime, first, second, result, _, _, injects⟩ := tap_cases arguments console
  refine ⟨_, injects, ⟨console.pointer, console.clock, upTime, console.display, first,
    second, rfl⟩, ?_⟩
  rw [result]
  cases first with
  | error error => rfl
  | ok => cases second <;> rfl

private theorem makes_pressKey (key : Request.KeyPress) (console : Console σ) :
    ∃ calls, Injects console calls ((pressKey key).run console).2 ∧
      (Command.key key).Makes calls ∧
      ((pressKey key).run console).1.isOk =
        ((Command.key key).isKnown && calls.all Injected.accepted) := by
  have once : ∀ event : Injection,
      ∃ calls, Injects console calls ((inject event).run console).2 ∧
        calls.map Injected.event = [event] ∧
        (((inject event).run console).1.mapError GestureError.refused).isOk =
          calls.all Injected.accepted := by
    intro event
    refine ⟨_, injects_inject event console, rfl, ?_⟩
    rw [isOk_mapError, List.all_cons, List.all_nil, Bool.and_true]
    rfl
  obtain ⟨code, action⟩ := key
  cases action with
  | down => exact once (.key (.down code))
  | up => exact once (.key (.up code))
  | both => exact once (.press code)
  | unrecognized word => exact ⟨[], .refl console, rfl, rfl⟩

/-- A command that is not cut short makes its injections, and it succeeds just
if it is known and all of them are accepted. -/
theorem makes_carryOut (command : Command) {console : Console σ}
    (uncut : ((carryOut command).run console).1 ≠ .error .interrupted) :
    ∃ calls, Injects console calls ((carryOut command).run console).2 ∧
      command.Makes calls ∧
      ((carryOut command).run console).1.isOk =
        (command.isKnown && calls.all Injected.accepted) := by
  cases command with
  | tap arguments => exact makes_tap arguments console
  | swipe arguments => exact makes_swipe arguments uncut
  | key arguments => exact makes_pressKey arguments console

/-! ## Lines that are commands -/

private theorem withArguments_map {α : Type} (arguments : Except Refusal α)
    (command : α → Command) :
    withArguments (arguments.map command) (carryOut : Command → Act σ _) =
      withArguments arguments fun value => carryOut (command value) := by
  cases arguments with
  | ok value => rfl
  | error refusal => rfl

private theorem serveRequest_of_command {request : Request}
    {arguments : Except Refusal Command}
    (isCommand : Command.ofRequest? request = some arguments) :
    (serveRequest request : Act σ _) = withArguments arguments carryOut := by
  obtain ⟨verb, text⟩ := request
  cases verb with
  | tap =>
      cases isCommand
      exact (withArguments_map _ Command.tap).symm
  | swipe =>
      cases isCommand
      exact (withArguments_map _ Command.swipe).symm
  | drag =>
      cases isCommand
      exact (withArguments_map _ Command.swipe).symm
  | keycode =>
      cases isCommand
      exact (withArguments_map _ Command.key).symm
  | _ => cases isCommand

/-- A display that takes input serves every command that has its arguments. -/
theorem dispatch_of_command {line : String} {arguments : Except Refusal Command}
    (isCommand : Command.ofLine? line = some arguments) {console : Console σ}
    (capable : console.acceptsInput = true) :
    (dispatch line).run console = (withArguments arguments carryOut).run console := by
  unfold Command.ofLine? at isCommand
  cases found : Request.ofLine line with
  | error refusal =>
      rw [found] at isCommand
      cases isCommand
  | ok request =>
      rw [found] at isCommand
      rw [run_dispatch found, capable, Bool.not_true, Bool.and_false,
        if_neg Bool.false_ne_true, serveRequest_of_command isCommand]

/-- A display that takes no input serves no command. -/
theorem dispatch_of_incapable {line : String} {arguments : Except Refusal Command}
    (isCommand : Command.ofLine? line = some arguments) {console : Console σ}
    (incapable : console.acceptsInput = false) :
    (dispatch line).run console = (.ok (.err .inputNotSupported), console) := by
  unfold Command.ofLine? at isCommand
  cases found : Request.ofLine line with
  | error refusal =>
      rw [found] at isCommand
      cases isCommand
  | ok request =>
      rw [found] at isCommand
      have requires : request.verb.requiresInput = true := by
        obtain ⟨verb, text⟩ := request
        cases verb with
        | ping => cases isCommand
        | clipGet => cases isCommand
        | clipSet => cases isCommand
        | _ => rfl
      rw [run_dispatch found, requires, incapable]
      rfl

/-- A line that is no command injects only the keys of a text. -/
theorem keys_of_asks {line : String} (noCommand : Command.ofLine? line = none)
    {call : Injected} (isAsked : Request.asks line (.inject call.event call.display)) :
    Request.verb? line = some .text ∧ ∃ event, call.event = .key event := by
  unfold Request.asks at isAsked
  unfold Command.ofLine? at noCommand
  unfold Request.verb?
  cases found : Request.ofLine line with
  | error refusal =>
      rw [found] at isAsked
      cases isAsked
  | ok request =>
      rw [found] at isAsked noCommand
      obtain ⟨verb, text⟩ := request
      cases verb with
      | text =>
          obtain ⟨event, display, answer⟩ := call
          cases isAsked with
          | key event display => exact ⟨rfl, event, rfl⟩
      | clipGet => cases isAsked
      | clipSet => cases isAsked
      | ping => cases isAsked
      | unknown keyword => cases isAsked
      | _ => cases noCommand

/-- A line that is no command touches nothing. -/
theorem injects_of_no_command {line : String} (noCommand : Command.ofLine? line = none)
    (console : Console σ) :
    ∃ calls, Injects console calls ((dispatch line).run console).2 ∧
      ∀ call ∈ calls, ∀ touch, call.event ≠ .touch touch := by
  obtain ⟨calls, injects, areAsked⟩ := (composed_dispatch line).injects console
  refine ⟨calls, injects, ?_⟩
  intro call member touch isTouch
  obtain ⟨_, event, isKey⟩ := keys_of_asks noCommand (areAsked call member)
  rw [isTouch] at isKey
  cases isKey

/-- A key command touches nothing. -/
theorem injects_pressKey (key : Request.KeyPress) (console : Console σ) :
    ∃ calls, Injects console calls ((pressKey key).run console).2 ∧
      ∀ call ∈ calls, ∀ touch, call.event ≠ .touch touch := by
  obtain ⟨calls, injects, areAsked⟩ := (plain_pressKey key).composed.injects console
  refine ⟨calls, injects, ?_⟩
  intro call member touch isTouch
  have isKey := areAsked call member
  rw [isTouch] at isKey
  cases isKey

/-- A line is no command, or it is refused, or it is carried out. -/
theorem dispatch_cases (line : String) (console : Console σ) :
    Command.ofLine? line = none ∨
      (∃ refusal, (dispatch line).run console = (.ok (.err refusal), console)) ∨
      ∃ command, Command.ofLine? line = some (.ok command) ∧
        (dispatch line).run console =
          (gestureReply ((carryOut command).run console).1).run
            ((carryOut command).run console).2 := by
  cases isCommand : Command.ofLine? line with
  | none => exact .inl rfl
  | some arguments =>
      right
      cases capable : console.acceptsInput with
      | false => exact .inl ⟨_, dispatch_of_incapable isCommand capable⟩
      | true =>
          have run := dispatch_of_command isCommand capable
          cases arguments with
          | error refusal => exact .inl ⟨refusal, run⟩
          | ok command => exact .inr ⟨command, rfl, run⟩

end Console

end RemoteInput
