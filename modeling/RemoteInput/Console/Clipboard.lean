import RemoteInput.Console
import RemoteInput.Request.Payload

/-!
# The clipboard

The clipboard of the device is read and replaced through text payloads.
-/

namespace RemoteInput

namespace Console

variable {σ : Type} [Device σ]

/-- The clipboard text as a payload. -/
def clipboardPayload : Act σ (Except Refusal String) := do
  match ← ask .clipboard with
  | some text => return .ok (Payload.encode text)
  | none => return .error .clipboardUnavailable

/-- Replaces the clipboard text by the text of a payload. -/
def setClipboard (payload : String) : Act σ (Except Refusal Unit) := do
  match Payload.decode payload with
  | .error refusal => return .error refusal
  | .ok text =>
      match ← ask (.setClipboard text) with
      | .ok () => return .ok ()
      | .error error =>
          note .warn ("clipboard update failed: " ++ error.message) []
          return .error .clipboardSetFailed

end Console

end RemoteInput
