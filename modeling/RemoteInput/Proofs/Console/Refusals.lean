import RemoteInput.Proofs.Console.Replies
import RemoteInput.Proofs.Request.Arguments

/-!
# Why requests are refused

A verb that may be served has a few refusals: those of its arguments or of its
payload, and one or none for what the device does.  A display that takes no
input is not among them.
-/

namespace RemoteInput

/-- Why a request with a verb may be refused on a display that takes input. -/
def Verb.refusals : Verb → List Refusal
  | .ping => []
  | .clipGet => [.clipboardUnavailable]
  | .clipSet => [.invalidBase64, .clipboardSetFailed]
  | .tap => .injectFailed :: Request.Tap.refusals
  | .swipe | .drag => .injectFailed :: Request.Swipe.refusals
  | .keycode => .injectFailed :: Request.KeyPress.refusals
  | .text => [.invalidBase64, .textNotSupported]
  | .unknown _ => [.unknownCommand]

theorem Verb.supported (verb : Verb) : .inputNotSupported ∉ verb.refusals := by
  cases verb <;> simp [refusals, Request.Tap.refusals, Request.Swipe.refusals,
    Request.KeyPress.refusals]

theorem Payload.refusal_of_decode {payload : String} {refusal : Refusal}
    (refused : decode payload = .error refusal) : refusal = .invalidBase64 := by
  unfold decode at refused
  split at refused
  · cases refused
  · cases refused
    rfl

namespace Console

/-- A result that is no refusal but for some reasons. -/
def RefusedFor (reasons : List Refusal) (result : Except Interruption Reply) : Prop :=
  ∀ refusal, result = .ok (.err refusal) → refusal ∈ reasons

variable {σ : Type} {reasons : List Refusal}

theorem refusedFor_ok (payload : Option String) :
    RefusedFor reasons (.ok (.ok payload)) := by
  intro refusal same
  cases same

theorem refusedFor_okWith (payload : String) :
    RefusedFor reasons (.ok (.okWith payload)) := by
  unfold Reply.okWith
  split
  · exact refusedFor_ok none
  · exact refusedFor_ok payload

theorem refusedFor_err {refusal : Refusal} (member : refusal ∈ reasons) :
    RefusedFor reasons (.ok (.err refusal)) := by
  intro other same
  cases same
  exact member

theorem refusedFor_cut (interruption : Interruption) :
    RefusedFor reasons (.error interruption) := by
  intro refusal same
  cases same

/-! ## What commands are refused for -/

private theorem refusals_withArguments {α : Type} {arguments : Except Refusal α}
    (refuses : Request.RefusesAs reasons arguments)
    (carryOut : α → Act σ (Except GestureError Unit)) :
    Yields (RefusedFor (.injectFailed :: reasons)) (withArguments arguments carryOut) := by
  cases arguments with
  | error refusal =>
      have member := refuses refusal rfl
      exact yields_pure (refusedFor_err (List.mem_cons_of_mem _ member))
  | ok value =>
      apply yields_bind
      exact yields_gestureReply (refusedFor_ok none)
        (refusedFor_err (List.mem_cons_self ..)) (refusedFor_cut _)

variable [Device σ]

private theorem refusals_setClipboard (payload : String) :
    Yields (RefusedFor [.invalidBase64, .clipboardSetFailed])
      (do return .ok (.ofResult (← setClipboard payload)) :
        Act σ (Except Interruption Reply)) := by
  have stored : Yields (Request.RefusesAs [.invalidBase64, .clipboardSetFailed])
      (setClipboard payload : Act σ (Except Refusal Unit)) := by
    cases decoded : Payload.decode payload with
    | error refusal =>
        obtain rfl := Payload.refusal_of_decode decoded
        simp only [setClipboard, decoded]
        exact yields_pure (Request.refusesAs_error (by simp))
    | ok text =>
        exact yields_setClipboard decoded (Request.refusesAs_ok ())
          (Request.refusesAs_error (by simp))
  refine stored.bind ?_
  intro result refuses
  cases result with
  | ok => exact yields_pure (refusedFor_ok none)
  | error refusal => exact yields_pure (refusedFor_err (refuses refusal rfl))

private theorem refusals_typePayload (payload : String) :
    Yields (RefusedFor [.invalidBase64, .textNotSupported])
      (do return .ok (← typePayload payload) : Act σ (Except Interruption Reply)) := by
  have replies : Yields
      (fun reply => RefusedFor [.invalidBase64, .textNotSupported] (.ok reply))
      (typePayload payload : Act σ Reply) := by
    cases decoded : Payload.decode payload with
    | error refusal =>
        obtain rfl := Payload.refusal_of_decode decoded
        simp only [typePayload, decoded]
        exact yields_pure (refusedFor_err (by simp))
    | ok text =>
        exact yields_typePayload decoded (refusedFor_ok none) (refusedFor_err (by simp))
  refine replies.bind ?_
  intro reply refused
  exact yields_pure refused

/-- A request is refused for the reasons of its verb. -/
theorem refusals_serveRequest (request : Request) :
    Yields (RefusedFor request.verb.refusals)
      (serveRequest request : Act σ (Except Interruption Reply)) := by
  obtain ⟨verb, arguments⟩ := request
  cases verb with
  | ping => exact yields_pure (refusedFor_okWith _)
  | clipGet =>
      have replies : Yields (fun reply => RefusedFor [.clipboardUnavailable] (.ok reply))
          (clipboardReply : Act σ Reply) :=
        yields_clipboardReply (fun _ => refusedFor_okWith _) (refusedFor_err (by simp))
      refine replies.bind ?_
      intro reply refused
      exact yields_pure refused
  | clipSet => exact refusals_setClipboard arguments
  | tap => exact refusals_withArguments (Request.refusesAs_tap arguments) tap
  | swipe => exact refusals_withArguments (Request.refusesAs_swipe arguments) swipe
  | drag => exact refusals_withArguments (Request.refusesAs_swipe arguments) swipe
  | keycode => exact refusals_withArguments (Request.refusesAs_keyPress arguments) pressKey
  | text => exact refusals_typePayload arguments
  | unknown keyword => exact yields_pure (refusedFor_err (List.mem_singleton_self _))

end Console

end RemoteInput
