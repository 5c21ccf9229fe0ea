import RemoteInput.Device.InMemory
import RemoteInput.Proofs.Console.Replies
import RemoteInput.Proofs.Session.Transcript

/-!
# Rejected lines

A request line is rejected for what it says, or because the display takes no
input.  All of that is found out before the device is asked, the clock is read,
the pointer is put anywhere or anything is noted: a rejected line leaves the
console as it was (`spares_dispatch`), and a dispatcher goes on as if the line
had never come (`serveLines_of_unrejected`, `replay_of_unrejected`).
-/

namespace RemoteInput

/-- A refusal that is found out before a command is begun. -/
def Refusal.isRejection : Refusal → Bool
  | .emptyCommand | .unknownCommand | .invalidArguments | .invalidCoordinates
  | .invalidPressure | .invalidButtons | .invalidKeycode | .invalidBase64
  | .inputNotSupported => true
  | .injectFailed | .textNotSupported | .clipboardUnavailable | .clipboardSetFailed => false

/-- A reply that rejects a request line. -/
def Reply.isRejection : Reply → Bool
  | .err refusal => refusal.isRejection
  | .ok _ => false

namespace Console

def isRejected : Except Interruption Reply → Bool
  | .ok reply => reply.isRejection
  | .error _ => false

variable {σ : Type}

/-- An act that leaves the console as it was if it comes to a rejection. -/
def Spares (act : Act σ (Except Interruption Reply)) : Prop :=
  ∀ console, isRejected (act.run console).1 = true → (act.run console).2 = console

theorem spares_pure (result : Except Interruption Reply) :
    Spares (pure result : Act σ _) := by
  intro console _
  rfl

/-- An act that never comes to a rejection. -/
theorem spares_of_yields {act : Act σ (Except Interruption Reply)}
    (never : Yields (fun result => isRejected result = false) act) : Spares act := by
  intro console rejected
  rw [never console] at rejected
  cases rejected

private theorem spares_withArguments {α : Type} (arguments : Except Refusal α)
    (carryOut : α → Act σ (Except GestureError Unit)) :
    Spares (withArguments arguments carryOut) := by
  cases arguments with
  | error refusal => exact spares_pure _
  | ok value =>
      apply spares_of_yields
      exact yields_bind (yields_gestureReply rfl rfl rfl)

private theorem spares_reply {act : Act σ Reply}
    (never : Yields (fun reply => reply.isRejection = false) act) :
    Spares (do return .ok (← act) : Act σ (Except Interruption Reply)) :=
  spares_of_yields (never.bind fun _ unrejected => yields_pure unrejected)

variable [Device σ]

private theorem spares_clipboardReply :
    Spares (do return .ok (← clipboardReply) : Act σ (Except Interruption Reply)) := by
  apply spares_reply
  apply yields_clipboardReply
  · intro text
    unfold Reply.okWith
    split
    · rfl
    · rfl
  · rfl

private theorem spares_setClipboard (payload : String) :
    Spares (do return .ok (.ofResult (← setClipboard payload)) :
      Act σ (Except Interruption Reply)) := by
  cases decoded : Payload.decode payload with
  | error refusal =>
      unfold setClipboard
      rw [decoded]
      exact spares_pure _
  | ok text =>
      have stored : Yields (fun result => (Reply.ofResult result).isRejection = false)
          (setClipboard payload : Act σ (Except Refusal Unit)) :=
        yields_setClipboard decoded rfl rfl
      exact spares_of_yields (stored.bind fun _ unrejected => yields_pure unrejected)

private theorem spares_typePayload (payload : String) :
    Spares (do return .ok (← typePayload payload) : Act σ (Except Interruption Reply)) := by
  cases decoded : Payload.decode payload with
  | error refusal =>
      unfold typePayload
      rw [decoded]
      exact spares_pure _
  | ok text => exact spares_reply (yields_typePayload decoded rfl rfl)

private theorem spares_serveRequest (request : Request) :
    Spares (serveRequest request : Act σ (Except Interruption Reply)) := by
  unfold serveRequest
  cases request.verb with
  | ping => exact spares_pure _
  | clipGet => exact spares_clipboardReply
  | clipSet => exact spares_setClipboard _
  | tap => exact spares_withArguments _ _
  | swipe => exact spares_withArguments _ _
  | drag => exact spares_withArguments _ _
  | keycode => exact spares_withArguments _ _
  | text => exact spares_typePayload _
  | unknown keyword => exact spares_pure _

/-- A rejected line leaves the console as it was. -/
theorem spares_dispatch (line : String) :
    Spares (dispatch line : Act σ (Except Interruption Reply)) := by
  intro console
  cases found : Request.ofLine line with
  | error refusal =>
      rw [run_dispatch_of_error found]
      exact fun _ => rfl
  | ok request =>
      rw [run_dispatch found]
      split
      · exact fun _ => rfl
      · exact spares_serveRequest request console

/-! ## Many lines -/

/-- The line that was served was rejected. -/
def Served.isRejected (served : Served) : Bool :=
  Console.isRejected served.result

/-- The line of an exchange was rejected. -/
def Exchange.isRejected (exchange : Exchange) : Bool :=
  Console.isRejected exchange.result

/-- Without the lines that are rejected, the others come to the same. -/
theorem serveLines_of_unrejected (lines : List String) (console : Console σ) :
    let served := (serveLines lines).run console
    let kept := served.1.filter (!·.isRejected)
    (serveLines (kept.map Served.line)).run console = (kept, served.2) := by
  induction lines generalizing console with
  | nil => rfl
  | cons line rest induction =>
      have others := induction ((dispatch line).run console).2
      dsimp only at others ⊢
      rw [run_serveLines_cons]
      cases rejected : isRejected ((dispatch line).run console).1 with
      | true =>
          have dropped : Served.isRejected
              { line, result := ((dispatch line).run console).1 } = true := rejected
          -- The console is as before, so the others are served as if they came first.
          have unchanged := spares_dispatch line console rejected
          rw [List.filter_cons_of_neg (by simp [dropped])]
          rw [unchanged] at others ⊢
          exact others
      | false =>
          have stays : Served.isRejected
              { line, result := ((dispatch line).run console).1 } = false := rejected
          rw [List.filter_cons_of_pos (by simp [stays]), List.map_cons,
            run_serveLines_cons, others]

/-- A rejected line has no exchange to speak of: nothing happens in it, and the
console is left as it was. -/
private theorem exchange_of_rejected {arrival : Arrival} {console : Console σ}
    (rejected : (exchange arrival console).1.isRejected = true) :
    (exchange arrival console).1.events = [] ∧
      (exchange arrival console).2 =
        { console with toMoment := arrival.moment, journal := #[] } := by
  have unchanged := spares_dispatch arrival.line
    { console with toMoment := arrival.moment, journal := #[] } rejected
  have left : (exchange arrival console).2 =
      { console with toMoment := arrival.moment, journal := #[] } := unchanged
  refine ⟨?_, left⟩
  rw [events_exchange, left]

/-- The same of lines that each arrive at a moment of their own. -/
theorem replay_of_unrejected (arrivals : List Arrival) (console : Console σ) :
    let kept := (arrivals.zip (replay console arrivals)).filter (!·.2.isRejected)
    replay console (kept.map Prod.fst) = kept.map Prod.snd := by
  induction arrivals generalizing console with
  | nil => rfl
  | cons arrival rest induction =>
      have others := induction (exchange arrival console).2
      dsimp only at others ⊢
      rw [replay, List.zip_cons_cons]
      cases rejected : (exchange arrival console).1.isRejected with
      | true =>
          rw [List.filter_cons_of_neg (by simp [rejected])]
          rw [(exchange_of_rejected rejected).2, replay_of_moved, replay_of_moved] at others
          rw [(exchange_of_rejected rejected).2, replay_of_moved]
          exact others
      | false =>
          rw [List.filter_cons_of_pos (by simp [rejected]), List.map_cons, List.map_cons,
            replay, others]

private theorem events_of_rejected (arrivals : List Arrival) (console : Console σ) :
    ∀ exchange ∈ replay console arrivals, exchange.isRejected = true →
      exchange.events = [] := by
  induction arrivals generalizing console with
  | nil =>
      intro exchange member
      cases member
  | cons arrival rest induction =>
      intro exchange member rejected
      rcases List.mem_cons.mp member with isFirst | isOther
      · subst isFirst
        exact (exchange_of_rejected rejected).1
      · exact induction _ exchange isOther rejected

/-- A rejected line changes nothing: not the device, not the clock, not the
pointer, not the journal.  So if the rejected lines are left out, every other
line has the same reply, and everything happens as before; also if each line
arrives at a moment of its own. -/
theorem rejected_lines_change_nothing (console : Console σ) :
    (∀ line, isRejected ((dispatch line).run console).1 = true →
      ((dispatch line).run console).2 = console) ∧
    (∀ lines,
      let served := (serveLines lines).run console
      let kept := served.1.filter (!·.isRejected)
      (serveLines (kept.map Served.line)).run console = (kept, served.2)) ∧
    ∀ arrivals,
      let exchanges := replay console arrivals
      let kept := (arrivals.zip exchanges).filter (!·.2.isRejected)
      (∀ exchange ∈ exchanges, exchange.isRejected = true → exchange.events = []) ∧
        replay console (kept.map Prod.fst) = kept.map Prod.snd := by
  refine ⟨fun line => spares_dispatch line console, ?_, ?_⟩
  · intro lines
    exact serveLines_of_unrejected lines console
  · intro arrivals
    exact ⟨events_of_rejected arrivals console, replay_of_unrejected arrivals console⟩

theorem rejected_lines_change_nothing_of_bad_arguments :
    let console : Console InMemoryDevice := .start .primary {} {}
    let lines := ["TAP 1", "PING", "CLIP_SET !", "TAP 5 6", "", "JUMP"]
    isRejected ((dispatch "TAP 1").run console).1 = true ∧
      ((dispatch "TAP 1").run console).2 = console ∧
      (serveLines ["PING", "TAP 5 6"]).run console =
        (((serveLines lines).run console).1.filter (!·.isRejected),
          ((serveLines lines).run console).2) := by
  intro console lines
  obtain ⟨unchanged, kept, _⟩ := rejected_lines_change_nothing console
  have rejected : isRejected ((dispatch "TAP 1").run console).1 = true := by
    decide +kernel
  have others : (((serveLines lines).run console).1.filter (!·.isRejected)).map
      Served.line = ["PING", "TAP 5 6"] := by
    decide +kernel
  refine ⟨rejected, unchanged "TAP 1" rejected, ?_⟩
  rw [← others]
  exact kept lines

end Console

end RemoteInput
