import RemoteInput.Console.Clipboard
import RemoteInput.Console.Gesture
import RemoteInput.Console.Typing
import RemoteInput.Request

/-!
# Serving a request

One request line gives one reply, unless a request for shutdown cuts the command
short.  A line without a keyword is refused first; then, on a display without
input support, every command that needs input; then arguments that cannot be
read; and only after that the device is asked.
-/

namespace RemoteInput

namespace Console

variable {σ : Type} [Device σ]

/-- How long the display may take to wake up, in milliseconds. -/
def wakeTime : Nat := 500

/-- Presses the power key and gives the display time to wake up.  The answer is
whether the key was pressed. -/
def pressPower : Act σ (Except Interruption Bool) := do
  note .info "screen is off, pressing power" []
  match ← press .power with
  | .error error =>
      note .warn ("could not press power: " ++ error.message) []
      return .ok false
  | .ok () =>
      if ← sleep wakeTime then
        return .ok true
      else
        return .error .shutdown

/-- Wakes the primary display, if asked to and if its screen is off.  The answer
is whether the power key was pressed. -/
def wake (enabled : Bool) : Act σ (Except Interruption Bool) := do
  let display := (← get).display
  if !enabled || display ≠ .primary then
    return .ok false
  else if ← ask (.screenOn display) then
    return .ok false
  else
    pressPower

/-- The reply to a gesture. -/
def gestureReply : Except GestureError Unit → Act σ (Except Interruption Reply)
  | .ok () => pure (.ok .done)
  | .error .interrupted => pure (.error .shutdown)
  | .error error => do
      note .warn ("injection failed: " ++ error.message) []
      return .ok (.err .injectFailed)

/-- Carries out a command with arguments that were read, or refuses it. -/
def withArguments {α : Type} (arguments : Except Refusal α)
    (carryOut : α → Act σ (Except GestureError Unit)) :
    Act σ (Except Interruption Reply) :=
  match arguments with
  | .ok arguments => do gestureReply (← carryOut arguments)
  | .error refusal => pure (.ok (.err refusal))

/-- Notes that some characters of a text were skipped. -/
def notePartial (report : TypingReport) : Act σ Unit :=
  note .info "text partially injected"
    [("injected", .number report.typed), ("skipped", .number report.skipped),
      ("total", .number report.total)]

/-- Types the text of a payload. -/
def typePayload (payload : String) : Act σ Reply := do
  match Payload.decode payload with
  | .error refusal => return .err refusal
  | .ok text =>
      if text = "" then
        return .done
      else
        let report ← typeText text
        if report.typed = 0 then
          return .err .textNotSupported
        else
          if report.skipped > 0 then
            notePartial report
          return .done

/-- The reply to a request for the clipboard. -/
def clipboardReply : Act σ Reply := do
  match ← clipboardPayload with
  | .ok payload => return .okWith payload
  | .error refusal => return .err refusal

/-- Serves a request that may be served. -/
def serveRequest (request : Request) : Act σ (Except Interruption Reply) :=
  match request.verb with
  | .ping => pure (.ok (.okWith "PONG"))
  | .clipGet => do return .ok (← clipboardReply)
  | .clipSet => do return .ok (.ofResult (← setClipboard request.arguments))
  | .tap => withArguments (Request.Tap.ofArguments request.arguments) tap
  | .swipe | .drag => withArguments (Request.Swipe.ofArguments request.arguments) swipe
  | .keycode => withArguments (Request.KeyPress.ofArguments request.arguments) pressKey
  | .text => do return .ok (← typePayload request.arguments)
  | .unknown _ => pure (.ok (.err .unknownCommand))

/-- Serves a request line. -/
def dispatch (line : String) : Act σ (Except Interruption Reply) := do
  match Request.ofLine line with
  | .error refusal => return .ok (.err refusal)
  | .ok request =>
      if request.verb.requiresInput && !(← get).acceptsInput then
        return .ok (.err .inputNotSupported)
      else
        serveRequest request

end Console

end RemoteInput
