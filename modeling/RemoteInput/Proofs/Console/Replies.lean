import RemoteInput.Console.Dispatch
import RemoteInput.Proofs.Reply

/-!
# The replies of a dispatcher

`Yields` says of an act that its answer is good whatever the console, and for
each command there are a few answers it is enough to look at.  The payload of a
reply is `PONG` or base64 of the clipboard text, whatever that text is, and an
empty payload is none; so every reply is read back from its line.
-/

namespace RemoteInput

namespace Console

variable {σ : Type}

/-- An act whose answer is good on every console. -/
def Yields {α : Type} (good : α → Prop) (act : Act σ α) : Prop :=
  ∀ console, good (act.run console).1

theorem yields_pure {α : Type} {good : α → Prop} {value : α} (isGood : good value) :
    Yields good (pure value : Act σ α) := by
  intro console
  exact isGood

theorem Yields.bind {α β : Type} {early : α → Prop} {good : β → Prop}
    {act : Act σ α} {next : α → Act σ β} (first : Yields early act)
    (later : ∀ value, early value → Yields good (next value)) :
    Yields good (act >>= next) := by
  intro console
  exact later (act.run console).1 (first console) (act.run console).2

theorem yields_bind {α β : Type} {good : β → Prop} {act : Act σ α}
    {next : α → Act σ β} (later : ∀ value, Yields good (next value)) :
    Yields good (act >>= next) := by
  intro console
  exact later (act.run console).1 (act.run console).2

/-! ## The answers of commands -/

theorem yields_gestureReply {good : Except Interruption Reply → Prop}
    (done : good (.ok .done)) (failed : good (.ok (.err .injectFailed)))
    (cut : good (.error .shutdown)) (result : Except GestureError Unit) :
    Yields good (gestureReply result : Act σ _) := by
  match result with
  | .ok () => exact yields_pure done
  | .error .interrupted => exact yields_pure cut
  | .error (.refused error) => exact yields_bind fun _ => yields_pure failed
  | .error (.unknownAction word) => exact yields_bind fun _ => yields_pure failed

/-- A command that was cut short, or a reply that is read back from its line. -/
def IsReadable (result : Except Interruption Reply) : Prop :=
  ∀ reply, result = .ok reply → reply.OneLine

theorem isReadable_ok {reply : Reply} (oneLine : reply.OneLine) :
    IsReadable (.ok reply) := by
  intro other same
  cases same
  exact oneLine

private theorem yields_withArguments {α : Type} (arguments : Except Refusal α)
    (carryOut : α → Act σ (Except GestureError Unit)) :
    Yields IsReadable (withArguments arguments carryOut) := by
  cases arguments with
  | error refusal => exact yields_pure (isReadable_ok (.err refusal))
  | ok value =>
      apply yields_bind
      exact yields_gestureReply (isReadable_ok .done) (isReadable_ok (.err _)) nofun

variable [Device σ]

theorem yields_clipboardReply {good : Reply → Prop}
    (present : ∀ text, good (.okWith (Payload.encode text)))
    (unavailable : good (.err .clipboardUnavailable)) :
    Yields good (clipboardReply : Act σ Reply) := by
  have payloads : Yields (fun result => (∃ text, result = .ok (Payload.encode text)) ∨
        result = .error .clipboardUnavailable)
      (clipboardPayload : Act σ (Except Refusal String)) := by
    apply yields_bind
    intro stored
    cases stored with
    | some text => exact yields_pure (.inl ⟨text, rfl⟩)
    | none => exact yields_pure (.inr rfl)
  unfold clipboardReply
  refine payloads.bind ?_
  intro result known
  rcases known with ⟨text, rfl⟩ | rfl
  · exact yields_pure (present text)
  · exact yields_pure unavailable

theorem yields_setClipboard {good : Except Refusal Unit → Prop} {payload text : String}
    (decoded : Payload.decode payload = .ok text) (done : good (.ok ()))
    (failed : good (.error .clipboardSetFailed)) :
    Yields good (setClipboard payload : Act σ (Except Refusal Unit)) := by
  unfold setClipboard
  rw [decoded]
  apply yields_bind
  intro result
  cases result with
  | ok => exact yields_pure done
  | error error => exact yields_bind fun _ => yields_pure failed

theorem yields_typePayload {good : Reply → Prop} {payload text : String}
    (decoded : Payload.decode payload = .ok text) (done : good .done)
    (unsupported : good (.err .textNotSupported)) :
    Yields good (typePayload payload : Act σ Reply) := by
  unfold typePayload
  rw [decoded]
  dsimp only
  split
  · exact yields_pure done
  · apply yields_bind
    intro report
    split
    · exact yields_pure unsupported
    · split
      · exact yields_bind fun _ => yields_pure done
      · exact yields_pure done

/-! ## Replies that are read back -/

private theorem isLineEnd_of_isSymbol {c : Char} (isSymbol : Base64.IsSymbol c) :
    Reply.isLineEnd c = false := by
  have graphic := isSymbol.isGraphic
  unfold Reply.isLineEnd
  by_cases carriageReturn : c = '\r'
  · subst carriageReturn
    exact absurd graphic (by decide)
  · by_cases lineFeed : c = '\n'
    · subst lineFeed
      exact absurd graphic (by decide)
    · simp [carriageReturn, lineFeed]

/-- The payload of any text holds no line end. -/
theorem isLineEnd_payload (text : String) :
    (Payload.encode text).toList.any Reply.isLineEnd = false := by
  unfold Payload.encode
  rw [String.toList_ofList]
  apply List.any_eq_false.mpr
  intro c member
  rw [isLineEnd_of_isSymbol (Base64.isSymbol_of_mem member)]
  exact Bool.false_ne_true

private theorem yields_serveRequest (request : Request) :
    Yields IsReadable
      (serveRequest request : Act σ (Except Interruption Reply)) := by
  unfold serveRequest
  cases request.verb with
  | ping =>
      apply yields_pure
      exact isReadable_ok (Reply.oneLine_okWith (by decide))
  | clipGet =>
      have replies : Yields Reply.OneLine (clipboardReply : Act σ Reply) :=
        yields_clipboardReply (fun text => Reply.oneLine_okWith (isLineEnd_payload text))
          (.err _)
      exact replies.bind fun _ oneLine => yields_pure (isReadable_ok oneLine)
  | clipSet =>
      apply yields_bind
      intro result
      exact yields_pure (isReadable_ok (Reply.oneLine_ofResult result))
  | tap => exact yields_withArguments _ _
  | swipe => exact yields_withArguments _ _
  | drag => exact yields_withArguments _ _
  | keycode => exact yields_withArguments _ _
  | text =>
      have replies : Yields Reply.OneLine (typePayload request.arguments : Act σ Reply) := by
        cases decoded : Payload.decode request.arguments with
        | error refusal =>
            unfold typePayload
            rw [decoded]
            exact yields_pure (.err refusal)
        | ok text => exact yields_typePayload decoded .done (.err _)
      exact replies.bind fun _ oneLine => yields_pure (isReadable_ok oneLine)
  | unknown keyword => exact yields_pure (isReadable_ok (.err .unknownCommand))

/-- Every reply of a dispatcher is read back from its line. -/
theorem yields_dispatch (line : String) :
    Yields IsReadable (dispatch line : Act σ (Except Interruption Reply)) := by
  unfold dispatch
  cases Request.ofLine line with
  | error refusal => exact yields_pure (isReadable_ok (.err refusal))
  | ok request =>
      apply yields_bind
      intro console
      split
      · exact yields_pure (isReadable_ok (.err .inputNotSupported))
      · exact yields_serveRequest request

end Console

end RemoteInput
