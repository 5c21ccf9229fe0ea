import RemoteInput.Console.Dispatch

/-!
# What acts are made of

Every command is put together from a few basic acts: asking the device, reading
the clock, sleeping, noting, pointing, and looking at a part of the console that
is not the journal.  `Composed` says so of an act, and says which calls it may
ask; `composed_dispatch` says so of serving a request line.  What holds of the
basic acts and carries over from two acts to one after the other therefore holds
of every command.

Most commands have nothing to do with the pointer, nor with whether the display
takes input: they are `Plain`.  Only gestures point.
-/

namespace RemoteInput

namespace Call

/-- A call that injects a touch event. -/
inductive IsTouch : Call → Prop where
  | touch (event : TouchEvent) (display : DisplayId) :
      IsTouch (.inject (.touch event) display)

/-- A call that presses a key or injects a key event. -/
inductive IsKey : Call → Prop where
  | press (code : KeyCode) (display : DisplayId) : IsKey (.inject (.press code) display)
  | key (event : KeyEvent) (display : DisplayId) : IsKey (.inject (.key event) display)

/-- A call that serves to type a text. -/
inductive IsTyping : Call → Prop where
  | keysFor (text : List Char) : IsTyping (.keysFor text)
  | key (event : KeyEvent) (display : DisplayId) : IsTyping (.inject (.key event) display)

/-- A call that reads or replaces the clipboard. -/
inductive IsClipboard : Call → Prop where
  | clipboard : IsClipboard .clipboard
  | setClipboard (text : String) : IsClipboard (.setClipboard text)

/-- A call that serves to wake the display. -/
inductive IsWaking : Call → Prop where
  | screenOn (display : DisplayId) : IsWaking (.screenOn display)
  | key {call : Call} (isKey : IsKey call) : IsWaking call

end Call

/-- The calls that serving a verb may ask. -/
def Verb.asks : Verb → Call → Prop
  | .tap | .swipe | .drag => Call.IsTouch
  | .keycode => Call.IsKey
  | .text => Call.IsTyping
  | .clipGet | .clipSet => Call.IsClipboard
  | .ping | .unknown _ => fun _ => False

/-- A verb that makes a gesture. -/
def Verb.isGesture : Verb → Bool
  | .tap | .swipe | .drag => true
  | .keycode | .text | .clipGet | .clipSet | .ping | .unknown _ => false

theorem Verb.isGesture_of_free {verb : Verb} (free : verb.requiresInput = false) :
    verb.isGesture = false := by
  cases verb with
  | tap => cases free
  | swipe => cases free
  | drag => cases free
  | _ => rfl

/-- The calls that serving a request line may ask. -/
def Request.asks (line : String) : Call → Prop :=
  match Request.ofLine line with
  | .ok request => request.verb.asks
  | .error _ => fun _ => False

namespace Pointer

/-- The pointer is the one finger, wherever it is. -/
structure IsFinger (pointer : Pointer) : Prop where
  id : pointer.id = 0
  tool : pointer.tool = .finger
  orientation : pointer.orientation = .zero
  size : pointer.size = .zero

theorem isFinger_mk (x y pressure : Binary32) :
    (Pointer.mk 0 .finger x y pressure .zero .zero).IsFinger :=
  ⟨rfl, rfl, rfl, rfl⟩

theorem isFinger_initial : initial.IsFinger :=
  isFinger_mk _ _ _

/-- Nothing is left of where a finger was before it is put somewhere. -/
theorem IsFinger.moveTo_eq {pointer : Pointer} (finger : pointer.IsFinger) (x y : Int32)
    (pressure : Binary32) :
    pointer.moveTo x y pressure =
      .mk 0 .finger (.ofInt x.toInt) (.ofInt y.toInt) pressure .zero .zero := by
  cases pointer with
  | mk id tool lastX lastY lastPressure orientation size =>
      cases finger with
      | mk isId isTool isOrientation isSize =>
          cases isId
          cases isTool
          cases isOrientation
          cases isSize
          rfl

theorem IsFinger.moveTo {pointer : Pointer} (finger : pointer.IsFinger) (x y : Int32)
    (pressure : Binary32) : (pointer.moveTo x y pressure).IsFinger := by
  rw [finger.moveTo_eq]
  exact isFinger_mk _ _ _

end Pointer

namespace Console

variable {σ : Type}

/-- Looks at a part of the console. -/
def look {β : Type} (part : Console σ → β) : Act σ β := fun console =>
  (part console, console)

/-- Changes the pointer. -/
def aim (change : Pointer → Pointer) : Act σ Unit := fun console =>
  ((), { console with pointer := change console.pointer })

/-- The console with earlier events in front of its journal. -/
def following (earlier : Array Event) (console : Console σ) : Console σ :=
  { console with journal := earlier ++ console.journal }

variable [Device σ]

/-- Acts that are put together from the basic acts and ask only calls of a
kind. -/
inductive Composed (asked : Call → Prop) : {α : Type} → Act σ α → Prop where
  | pure {α : Type} (value : α) : Composed asked (pure value)
  | bind {α β : Type} {act : Act σ α} {next : α → Act σ β} :
      Composed asked act → (∀ value, Composed asked (next value)) →
      Composed asked (act >>= next)
  | look {β : Type} {part : Console σ → β}
      (blind : ∀ earlier console, part (following earlier console) = part console) :
      Composed asked (look part)
  | aim {change : Pointer → Pointer}
      (steady : ∀ pointer, pointer.IsFinger → (change pointer).IsFinger) :
      Composed asked (aim change)
  | ask {call : Call} (isAsked : asked call) : Composed asked (ask call)
  | sleep (duration : Nat) : Composed asked (sleep duration)
  | note (severity : Severity) (message : String)
      (fields : List (String × NoteValue)) :
      Composed asked (note severity message fields)

/-- An act that asks only calls of a kind asks only calls of a wider kind. -/
theorem Composed.mono {asked more : Call → Prop} {α : Type} {act : Act σ α}
    (composed : Composed asked act) (wider : ∀ call, asked call → more call) :
    Composed more act := by
  induction composed with
  | pure value => exact .pure value
  | bind _ _ first later => exact .bind first later
  | look blind => exact .look blind
  | aim steady => exact .aim steady
  | ask isAsked => exact .ask (wider _ isAsked)
  | sleep duration => exact .sleep duration
  | note severity message fields => exact .note severity message fields

/-- Composed acts that look at nothing of the console but its display, and never
point. -/
inductive Plain (asked : Call → Prop) : {α : Type} → Act σ α → Prop where
  | pure {α : Type} (value : α) : Plain asked (pure value)
  | bind {α β : Type} {act : Act σ α} {next : α → Act σ β} :
      Plain asked act → (∀ value, Plain asked (next value)) → Plain asked (act >>= next)
  | display : Plain asked (look display)
  | ask {call : Call} (isAsked : asked call) : Plain asked (ask call)
  | sleep (duration : Nat) : Plain asked (sleep duration)
  | note (severity : Severity) (message : String) (fields : List (String × NoteValue)) :
      Plain asked (note severity message fields)

theorem Plain.mono {asked more : Call → Prop} {α : Type} {act : Act σ α}
    (plain : Plain asked act) (wider : ∀ call, asked call → more call) :
    Plain more act := by
  induction plain with
  | pure value => exact .pure value
  | bind _ _ first later => exact .bind first later
  | display => exact .display
  | ask isAsked => exact .ask (wider _ isAsked)
  | sleep duration => exact .sleep duration
  | note severity message fields => exact .note severity message fields

theorem Plain.composed {asked : Call → Prop} {α : Type} {act : Act σ α}
    (plain : Plain asked act) : Composed asked act := by
  induction plain with
  | pure value => exact .pure value
  | bind _ _ first later => exact .bind first later
  | display => exact .look fun _ _ => rfl
  | ask isAsked => exact .ask isAsked
  | sleep duration => exact .sleep duration
  | note severity message fields => exact .note severity message fields

section

variable {asked : Call → Prop}

theorem composed_now : Composed asked (now : Act σ Nat) :=
  .look fun _ _ => rfl

private theorem composed_point (x y : Int32) (pressure : Binary32) :
    Composed asked (point x y pressure : Act σ Unit) :=
  .aim fun _ finger => finger.moveTo x y pressure

theorem plain_inject {event : Injection}
    (isAsked : ∀ display, asked (.inject event display)) :
    Plain asked (inject event : Act σ (Except DeviceError Unit)) := by
  change Plain asked (look display >>= fun display => ask (.inject event display))
  exact .bind .display fun display => .ask (isAsked display)

end

theorem composed_touch (downTime eventTime : Nat) (action : TouchAction)
    (buttons : Int32) :
    Composed Call.IsTouch (touch downTime eventTime action buttons :
      Act σ (Except DeviceError Unit)) := by
  change Composed Call.IsTouch (look pointer >>= fun pointer =>
    inject (.touch (TouchEvent.touch downTime eventTime action pointer buttons)))
  exact .bind (.look fun _ _ => rfl) fun _ => (plain_inject (.touch _)).composed

private theorem composed_noteTapFailure (half : String) (tap : Request.Tap)
    (result : Except DeviceError Unit) :
    Composed Call.IsTouch (noteTapFailure half tap result : Act σ Unit) := by
  cases result with
  | ok => exact .pure ()
  | error error => exact .note _ _ _

theorem composed_tap (arguments : Request.Tap) :
    Composed Call.IsTouch (tap arguments : Act σ (Except GestureError Unit)) := by
  unfold tap
  refine .bind (composed_point _ _ _) fun _ => .bind composed_now fun _ => ?_
  refine .bind (composed_touch _ _ _ _) fun down => ?_
  refine .bind (composed_noteTapFailure _ _ down) fun _ => ?_
  refine .bind composed_now fun _ => .bind (composed_touch _ _ _ _) fun up => ?_
  exact .bind (composed_noteTapFailure _ _ up) fun _ => .pure _

/-- A step that may end a gesture, and what follows it. -/
private theorem composed_gesture_bind {α β : Type} {asked : Call → Prop}
    {act : GestureAct σ α} {next : α → GestureAct σ β}
    (first : Composed asked act.run) (later : ∀ value, Composed asked (next value).run) :
    Composed asked (act >>= next).run := by
  rw [ExceptT.run_bind]
  refine .bind first fun result => ?_
  cases result with
  | ok value => exact later value
  | error error => exact .pure _

private theorem composed_contact (downTime eventTime : Nat) (action : TouchAction)
    (place : Point) :
    Composed Call.IsTouch (contact downTime eventTime action place : GestureAct σ Unit).run := by
  unfold contact
  exact .bind (composed_point _ _ _) fun _ => .bind (composed_touch _ _ _ _) fun _ => .pure _

private theorem composed_follow (path : SwipePath) (downTime left index : Nat) :
    Composed Call.IsTouch (follow path downTime left index : GestureAct σ Unit).run := by
  induction left generalizing index with
  | zero => exact .pure _
  | succ left induction =>
      have paused : Composed Call.IsTouch (pause path.spacing : GestureAct σ Unit).run := by
        unfold pause
        exact .bind (.sleep _) fun _ => .pure _
      unfold follow
      refine composed_gesture_bind (composed_contact _ _ _ _) fun _ => ?_
      exact composed_gesture_bind paused fun _ => induction (index + 1)

theorem composed_swipe (arguments : Request.Swipe) :
    Composed Call.IsTouch (swipe arguments : Act σ (Except GestureError Unit)) := by
  have clock : Composed Call.IsTouch (ExceptT.lift now : GestureAct σ Nat).run :=
    .bind composed_now fun _ => .pure _
  unfold swipe trace
  refine composed_gesture_bind clock fun downTime => ?_
  refine composed_gesture_bind (composed_contact _ _ _ _) fun _ => ?_
  refine composed_gesture_bind (composed_follow _ _ _ _) fun _ => ?_
  exact composed_gesture_bind clock fun upTime => composed_contact _ _ _ _

theorem plain_press (code : KeyCode) :
    Plain Call.IsKey (press code : Act σ (Except DeviceError Unit)) :=
  plain_inject (.press code)

theorem plain_pressKey (key : Request.KeyPress) :
    Plain Call.IsKey (pressKey key : Act σ (Except GestureError Unit)) := by
  unfold pressKey
  cases key.action with
  | down => exact .bind (plain_inject (.key _)) fun _ => .pure _
  | up => exact .bind (plain_inject (.key _)) fun _ => .pure _
  | both => exact .bind (plain_press _) fun _ => .pure _
  | unrecognized word => exact .pure _

private theorem plain_injectAll (events : List KeyEvent) :
    Plain Call.IsTyping (injectAll events : Act σ Bool) := by
  induction events with
  | nil => exact .pure true
  | cons event rest induction =>
      unfold injectAll
      refine .bind (plain_inject (.key event)) fun result => ?_
      cases result with
      | ok => exact induction
      | error error => exact .pure false

private theorem plain_typeChar (c : Char) :
    Plain Call.IsTyping (typeChar c : Act σ Bool) := by
  unfold typeChar
  refine .bind (.ask (.keysFor _)) fun events => ?_
  cases events with
  | some events => exact plain_injectAll events
  | none => exact .pure false

private theorem plain_typeOn (report : TypingReport) (text : List Char) :
    Plain Call.IsTyping (typeOn report text : Act σ TypingReport) := by
  induction text generalizing report with
  | nil => exact .pure report
  | cons c rest induction =>
      unfold typeOn
      refine .bind (plain_typeChar c) fun typed => ?_
      cases typed with
      | true => exact induction _
      | false => exact .bind (.note _ _ _) fun _ => induction _

theorem plain_typeText (text : String) :
    Plain Call.IsTyping (typeText text : Act σ TypingReport) :=
  plain_typeOn .none text.toList

theorem plain_typePayload (payload : String) :
    Plain Call.IsTyping (typePayload payload : Act σ Reply) := by
  unfold typePayload
  cases Payload.decode payload with
  | error refusal => exact .pure _
  | ok text =>
      dsimp only
      split
      · exact .pure _
      · refine .bind (plain_typeText _) fun report => ?_
        split
        · exact .pure _
        · split
          · exact .bind (.note _ _ _) fun _ => .pure _
          · exact .pure _

theorem plain_clipboardReply :
    Plain Call.IsClipboard (clipboardReply : Act σ Reply) := by
  unfold clipboardReply clipboardPayload
  refine .bind (.bind (.ask .clipboard) fun text => ?_) fun payload => ?_
  · cases text with
    | some text => exact .pure _
    | none => exact .pure _
  · cases payload with
    | ok payload => exact .pure _
    | error refusal => exact .pure _

theorem plain_setClipboard (payload : String) :
    Plain Call.IsClipboard (setClipboard payload : Act σ (Except Refusal Unit)) := by
  unfold setClipboard
  cases Payload.decode payload with
  | error refusal => exact .pure _
  | ok text =>
      refine .bind (.ask (.setClipboard text)) fun result => ?_
      cases result with
      | ok => exact .pure _
      | error error => exact .bind (.note _ _ _) fun _ => .pure _

theorem plain_gestureReply {asked : Call → Prop} (result : Except GestureError Unit) :
    Plain asked (gestureReply result : Act σ (Except Interruption Reply)) := by
  match result with
  | .ok () => exact .pure _
  | .error .interrupted => exact .pure _
  | .error (.refused error) => exact .bind (.note _ _ _) fun _ => .pure _
  | .error (.unknownAction word) => exact .bind (.note _ _ _) fun _ => .pure _

private theorem composed_withArguments {α : Type} {asked : Call → Prop}
    (arguments : Except Refusal α)
    {carryOut : α → Act σ (Except GestureError Unit)}
    (composed : ∀ value, Composed asked (carryOut value)) :
    Composed asked (withArguments arguments carryOut) := by
  cases arguments with
  | error refusal => exact .pure _
  | ok value => exact .bind (composed value) fun _ => (plain_gestureReply _).composed

private theorem plain_withArguments {α : Type} {asked : Call → Prop}
    (arguments : Except Refusal α)
    {carryOut : α → Act σ (Except GestureError Unit)}
    (plain : ∀ value, Plain asked (carryOut value)) :
    Plain asked (withArguments arguments carryOut) := by
  cases arguments with
  | error refusal => exact .pure _
  | ok value => exact .bind (plain value) fun _ => plain_gestureReply _

/-- Whatever is no gesture is plain. -/
theorem plain_serveRequest {request : Request} (still : request.verb.isGesture = false) :
    Plain request.verb.asks
      (serveRequest request : Act σ (Except Interruption Reply)) := by
  obtain ⟨verb, arguments⟩ := request
  cases verb with
  | ping => exact .pure _
  | clipGet => exact .bind plain_clipboardReply fun _ => .pure _
  | clipSet => exact .bind (plain_setClipboard _) fun _ => .pure _
  | keycode => exact plain_withArguments _ plain_pressKey
  | text => exact .bind (plain_typePayload _) fun _ => .pure _
  | unknown keyword => exact .pure _
  | tap => cases still
  | swipe => cases still
  | drag => cases still

private theorem composed_serveRequest (request : Request) :
    Composed request.verb.asks
      (serveRequest request : Act σ (Except Interruption Reply)) := by
  obtain ⟨verb, arguments⟩ := request
  cases verb with
  | tap => exact composed_withArguments _ composed_tap
  | swipe => exact composed_withArguments _ composed_swipe
  | drag => exact composed_withArguments _ composed_swipe
  | _ => exact (plain_serveRequest rfl).composed

/-- Serving a request line is put together from the basic acts, and asks only
what its verb may ask. -/
theorem composed_dispatch (line : String) :
    Composed (Request.asks line)
      (dispatch line : Act σ (Except Interruption Reply)) := by
  unfold dispatch Request.asks
  cases Request.ofLine line with
  | error refusal => exact .pure _
  | ok request =>
      change Composed request.verb.asks (look acceptsInput >>= fun accepts =>
        if request.verb.requiresInput && !accepts then
          pure (.ok (.err .inputNotSupported))
        else
          serveRequest request)
      refine .bind (.look fun _ _ => rfl) fun accepts => ?_
      split
      · exact .pure _
      · exact composed_serveRequest request

/-- A request with a keyword is served, unless it needs input that the display
does not take. -/
theorem run_dispatch {line : String} {request : Request}
    (found : Request.ofLine line = .ok request) (console : Console σ) :
    (dispatch line).run console =
      if request.verb.requiresInput && !console.acceptsInput then
        (.ok (.err .inputNotSupported), console)
      else
        (serveRequest request).run console := by
  have gated : (dispatch line).run console =
      (if request.verb.requiresInput && !console.acceptsInput then
        pure (.ok (.err .inputNotSupported))
      else
        serveRequest request : Act σ (Except Interruption Reply)).run console := by
    unfold dispatch
    rw [found]
    rfl
  rw [gated]
  split
  · rfl
  · rfl

theorem run_dispatch_of_admitted {line : String} {request : Request}
    (found : Request.ofLine line = .ok request) {console : Console σ}
    (admitted : (request.verb.requiresInput && !console.acceptsInput) = false) :
    (dispatch line).run console = (serveRequest request).run console := by
  rw [run_dispatch found, if_neg (Bool.eq_false_iff.mp admitted)]

theorem run_dispatch_of_error {line : String} {refusal : Refusal}
    (found : Request.ofLine line = .error refusal) (console : Console σ) :
    (dispatch line).run console = (.ok (.err refusal), console) := by
  unfold dispatch
  rw [found]
  rfl

/-- A request line that was served, and what serving it came to. -/
structure Served where
  line : String
  result : Except Interruption Reply

/-- Serves request lines one after the other. -/
def serveLines : List String → Act σ (List Served)
  | [] => pure []
  | line :: rest => do
      let result ← dispatch line
      let others ← serveLines rest
      return { line, result } :: others

theorem composed_serveLines (lines : List String) :
    Composed (fun _ => True) (serveLines lines : Act σ (List Served)) := by
  induction lines with
  | nil => exact .pure []
  | cons line rest induction =>
      apply Composed.bind
      · exact (composed_dispatch line).mono fun _ _ => trivial
      · intro result
        exact .bind induction fun others => .pure _

theorem run_serveLines_cons (line : String) (rest : List String) (console : Console σ) :
    (serveLines (line :: rest)).run console =
      ({ line, result := ((dispatch line).run console).1 } ::
          ((serveLines rest).run ((dispatch line).run console).2).1,
        ((serveLines rest).run ((dispatch line).run console).2).2) :=
  rfl

theorem plain_pressPower :
    Plain Call.IsKey (pressPower : Act σ (Except Interruption Bool)) := by
  unfold pressPower
  refine .bind (.note _ _ _) fun _ => .bind (plain_press _) fun pressed => ?_
  cases pressed with
  | error error => exact .bind (.note _ _ _) fun _ => .pure _
  | ok =>
      refine .bind (.sleep _) fun wholly => ?_
      split
      · exact .pure _
      · exact .pure _

/-- Waking the display is plain. -/
theorem plain_wake (enabled : Bool) :
    Plain Call.IsWaking (wake enabled : Act σ (Except Interruption Bool)) := by
  change Plain Call.IsWaking (look display >>= fun shown =>
    if !enabled || shown ≠ .primary then
      pure (Except.ok false)
    else
      ask (.screenOn shown) >>= fun isOn =>
        if isOn then pure (Except.ok false) else pressPower)
  refine .bind .display fun shown => ?_
  split
  · exact .pure _
  · refine .bind (.ask (.screenOn shown)) fun isOn => ?_
    split
    · exact .pure _
    · exact plain_pressPower.mono fun _ => .key

end Console

end RemoteInput
