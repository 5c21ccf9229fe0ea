import RemoteInput.Device.InMemory
import RemoteInput.Proofs.Console.Commands
import RemoteInput.Proofs.Console.Interruption
import RemoteInput.Proofs.Console.Refusals
import RemoteInput.Proofs.Request
import RemoteInput.Proofs.Request.Payload

/-!
# The contract of a verb

A client that knows the verb it sent knows which replies to expect: what success
looks like, and the few refusals that the protocol lists for the verb.  Only a
swipe along a path with waypoints can end without a reply.
-/

namespace RemoteInput

namespace Verb

/-- The refusals that the protocol lists for a verb. -/
def listed : Verb → List Refusal
  | .ping => []
  | .clipGet => [.clipboardUnavailable]
  | .clipSet => [.invalidBase64, .clipboardSetFailed]
  | .tap =>
      [.invalidArguments, .invalidCoordinates, .invalidPressure, .invalidButtons,
        .inputNotSupported, .injectFailed]
  | .swipe | .drag =>
      [.invalidArguments, .invalidCoordinates, .inputNotSupported, .injectFailed]
  | .keycode => [.invalidArguments, .invalidKeycode, .inputNotSupported, .injectFailed]
  | .text => [.invalidBase64, .inputNotSupported, .textNotSupported]
  | .unknown _ => [.unknownCommand, .inputNotSupported]

/-- What a verb may succeed with: `PONG`, the base64 that some text is written
as, or nothing. -/
def SucceedsWith : Verb → Option String → Prop
  | .ping, payload => payload = some "PONG"
  | .clipGet, payload =>
      ∀ held, payload = some held →
        ∃ text, text ≠ "" ∧ Payload.decode held = .ok text ∧ Payload.encode text = held
  | .unknown _, _ => False
  | _, payload => payload = none

/-- The replies that the contract of a verb permits. -/
def Permits (verb : Verb) : Reply → Prop
  | .ok payload => verb.SucceedsWith payload
  | .err refusal => refusal ∈ verb.listed

theorem refusals_subset_listed (verb : Verb) : verb.refusals ⊆ verb.listed := by
  cases verb <;> simp [refusals, listed, Request.Tap.refusals, Request.Swipe.refusals,
    Request.KeyPress.refusals]

theorem emptyCommand_not_mem_listed (verb : Verb) : .emptyCommand ∉ verb.listed := by
  cases verb <;> simp [listed]

theorem inputNotSupported_mem_listed {verb : Verb} (requires : verb.requiresInput = true) :
    .inputNotSupported ∈ verb.listed := by
  cases verb with
  | ping => cases requires
  | clipGet => cases requires
  | clipSet => cases requires
  | _ => simp [listed]

end Verb

/-- A line that is a swipe has the keyword of one and arguments that are read. -/
theorem Command.swipe_of_ofLine {line : String} {arguments : Request.Swipe}
    (isSwipe : ofLine? line = some (.ok (.swipe arguments))) :
    ∃ request, Request.ofLine line = .ok request ∧
      (request.verb = .swipe ∨ request.verb = .drag) ∧
      Request.Swipe.ofArguments request.arguments = .ok arguments := by
  obtain ⟨request, read, requested⟩ := requested_of_ofLine isSwipe
  cases requested with
  | swipe isVerb isRead => exact ⟨_, read, isVerb, isRead⟩

namespace Console

variable {σ : Type}

/-! ## Success -/

/-- A result that is no success but as a verb may succeed. -/
def Succeeds (verb : Verb) (result : Except Interruption Reply) : Prop :=
  ∀ payload, result = .ok (.ok payload) → verb.SucceedsWith payload

theorem succeeds_ok {verb : Verb} {payload : Option String}
    (succeeds : verb.SucceedsWith payload) : Succeeds verb (.ok (.ok payload)) := by
  intro other same
  cases same
  exact succeeds

theorem succeeds_err (verb : Verb) (refusal : Refusal) :
    Succeeds verb (.ok (.err refusal)) := by
  intro payload same
  cases same

/-- The payload of the clipboard reply is the one of the clipboard text. -/
theorem succeeds_payload (text : String) :
    Succeeds .clipGet (.ok (.okWith (Payload.encode text))) := by
  unfold Reply.okWith
  split
  · exact succeeds_ok nofun
  · next present =>
    apply succeeds_ok
    intro held same
    cases same
    exact ⟨text, mt Payload.encode_eq_empty_iff.mpr present, Payload.decode_encode text, rfl⟩

private theorem succeeds_withArguments (verb : Verb) (succeeds : verb.SucceedsWith none)
    {α : Type} (arguments : Except Refusal α)
    (carryOut : α → Act σ (Except GestureError Unit)) :
    Yields (Succeeds verb) (withArguments arguments carryOut) := by
  cases arguments with
  | error refusal => exact yields_pure (succeeds_err verb refusal)
  | ok value =>
      apply yields_bind
      apply yields_gestureReply
      · exact succeeds_ok succeeds
      · exact succeeds_err verb .injectFailed
      · exact nofun

variable [Device σ]

private theorem succeeds_typePayload (payload : String) :
    Yields (fun reply => Succeeds .text (.ok reply))
      (typePayload payload : Act σ Reply) := by
  cases decoded : Payload.decode payload with
  | error refusal =>
      simp only [typePayload, decoded]
      exact yields_pure (succeeds_err .text refusal)
  | ok text =>
      have done : Succeeds .text (.ok .done) := succeeds_ok rfl
      exact yields_typePayload decoded done (succeeds_err .text .textNotSupported)

/-- A request that is served succeeds as its verb may. -/
theorem succeeds_serveRequest (request : Request) :
    Yields (Succeeds request.verb)
      (serveRequest request : Act σ (Except Interruption Reply)) := by
  obtain ⟨verb, arguments⟩ := request
  cases verb with
  | ping => exact yields_pure (succeeds_ok rfl)
  | clipGet =>
      have replies : Yields (fun reply => Succeeds .clipGet (.ok reply))
          (clipboardReply : Act σ Reply) :=
        yields_clipboardReply succeeds_payload (succeeds_err .clipGet .clipboardUnavailable)
      exact replies.bind fun _ succeeds => yields_pure succeeds
  | clipSet =>
      apply yields_bind
      intro result
      cases result with
      | ok => exact yields_pure (succeeds_ok rfl)
      | error refusal => exact yields_pure (succeeds_err .clipSet refusal)
  | tap => exact succeeds_withArguments .tap rfl _ tap
  | swipe => exact succeeds_withArguments .swipe rfl _ swipe
  | drag => exact succeeds_withArguments .drag rfl _ swipe
  | keycode => exact succeeds_withArguments .keycode rfl _ pressKey
  | text => exact (succeeds_typePayload arguments).bind fun _ succeeds => yields_pure succeeds
  | unknown keyword => exact yields_pure (succeeds_err (.unknown keyword) .unknownCommand)

/-- A request line with a verb is answered as the contract of the verb permits. -/
theorem permits_dispatch {line : String} {request : Request}
    (read : Request.ofLine line = .ok request) {console : Console σ} {reply : Reply}
    (replied : ((dispatch line).run console).1 = .ok reply) : request.verb.Permits reply := by
  rw [run_dispatch read] at replied
  split at replied
  · next gate =>
    cases replied
    exact Verb.inputNotSupported_mem_listed (Bool.and_eq_true_iff.mp gate).1
  · cases reply with
    | ok payload => exact succeeds_serveRequest request console payload replied
    | err refusal =>
        apply request.verb.refusals_subset_listed
        exact refusals_serveRequest request console refusal replied

/-! ## Commands that are cut short -/

/-- A swipe that is cut short had a move to make. -/
theorem Swipes.moves_of_cut {path : SwipePath} {downTime left index : Nat}
    {console after : Console σ} {calls : List Injected} {result : Except GestureError Unit}
    (goes : Swipes path downTime left index console calls result after)
    (cut : result = .error .interrupted) : 0 < left := by
  cases goes with
  | @lifted index console touch planned =>
      cases answer : (contacted touch console).1 with
      | ok =>
          rw [answer] at cut
          cases cut
      | error error =>
          rw [answer] at cut
          cases cut
  | refused planned answer => exact Nat.succ_pos _
  | cut planned answer slept => exact Nat.succ_pos _
  | paused planned answer slept goesOn => exact Nat.succ_pos _

/-- No command is cut short but a swipe along a path of two steps or more. -/
theorem swipe_of_cut {command : Command} {console : Console σ}
    (cut : ((carryOut command).run console).1 = .error .interrupted) :
    ∃ arguments, command = .swipe arguments ∧
      2 ≤ (SwipePath.plan ⟨arguments.x1, arguments.y1⟩ ⟨arguments.x2, arguments.y2⟩
        arguments.duration).steps := by
  cases command with
  | tap arguments =>
      obtain ⟨_, first, second, result, _⟩ := tap_cases arguments console
      have failed : firstFailure first second = .error .interrupted := result.symm.trans cut
      cases first with
      | error error => cases failed
      | ok => cases second <;> cases failed
  | swipe arguments =>
      refine ⟨arguments, rfl, ?_⟩
      have swiped : ((swipe arguments).run console).1 = .error .interrupted := cut
      rcases swipe_cases arguments console with
        ⟨error, _, run⟩ | ⟨_, calls, result, after, goes, run⟩
      · rw [run] at swiped
        cases swiped
      · rw [run] at swiped
        have moves := goes.moves_of_cut swiped
        unfold SwipePath.moveCount at moves
        omega
  | key arguments =>
      have answers : ∀ result : Except DeviceError Unit,
          result.mapError GestureError.refused ≠ .error .interrupted := by
        intro result same
        cases result <;> cases same
      obtain ⟨code, action⟩ := arguments
      cases action with
      | down => exact absurd cut (answers _)
      | up => exact absurd cut (answers _)
      | both => exact absurd cut (answers _)
      | unrecognized word => cases cut

/-- A request that is no gesture and no key gets a reply. -/
theorem replies_of_no_command {line : String} (noCommand : Command.ofLine? line = none)
    (console : Console σ) : ∃ reply, ((dispatch line).run console).1 = .ok reply := by
  unfold Command.ofLine? at noCommand
  cases read : Request.ofLine line with
  | error refusal =>
      rw [run_dispatch_of_error read]
      exact ⟨.err refusal, rfl⟩
  | ok request =>
      rw [read] at noCommand
      rw [run_dispatch read]
      split
      · exact ⟨.err .inputNotSupported, rfl⟩
      · obtain ⟨verb, arguments⟩ := request
        cases verb with
        | ping => exact ⟨_, rfl⟩
        | clipGet => exact ⟨_, rfl⟩
        | clipSet => exact ⟨_, rfl⟩
        | text => exact ⟨_, rfl⟩
        | unknown keyword => exact ⟨_, rfl⟩
        | _ => cases noCommand

/-- Only a swipe along a path of two steps or more gets no reply. -/
theorem swipe_of_no_reply {line : String} {console : Console σ}
    (cut : ((dispatch line).run console).1 = .error .shutdown) :
    ∃ arguments, Command.ofLine? line = some (.ok (.swipe arguments)) ∧
      2 ≤ (SwipePath.plan ⟨arguments.x1, arguments.y1⟩ ⟨arguments.x2, arguments.y2⟩
        arguments.duration).steps := by
  rcases dispatch_cases line console with
    noCommand | ⟨refusal, run⟩ | ⟨command, isCommand, run⟩
  · obtain ⟨reply, replied⟩ := replies_of_no_command noCommand console
    rw [replied] at cut
    cases cut
  · rw [run] at cut
    cases cut
  · by_cases interrupted : ((carryOut command).run console).1 = .error .interrupted
    · obtain ⟨arguments, rfl, several⟩ := swipe_of_cut interrupted
      exact ⟨arguments, isCommand, several⟩
    · rw [run, gestureReply_of_uncut interrupted] at cut
      cases cut

/-! ## All lines -/

/-- A line without a word is an empty command, and no other line is.  A line with
a keyword is answered, if at all, as the contract of its verb permits, and `PING`
always is.  No answer means a swipe with arguments that are read, along a path of
two steps or more, and a request for shutdown. -/
theorem replies_within_contract (line : String) (console : Console σ) :
    let served := (dispatch line).run console
    (served.1 = .ok (.err .emptyCommand) ↔ Text.words line.toList = []) ∧
    (∀ keyword reply, Request.keyword? line = some keyword → served.1 = .ok reply →
      (Verb.ofKeyword keyword).Permits reply) ∧
    (Request.keyword? line = some "PING" → served.1 = .ok (.ok (some "PONG"))) ∧
    (served.1 = .error .shutdown →
      (console.watch = {} → served.2.shutdown.requested = true) ∧
      ∃ request arguments, Request.ofLine line = .ok request ∧
        (request.verb = .swipe ∨ request.verb = .drag) ∧
        Request.Swipe.ofArguments request.arguments = .ok arguments ∧
        2 ≤ (SwipePath.plan ⟨arguments.x1, arguments.y1⟩ ⟨arguments.x2, arguments.y2⟩
          arguments.duration).steps) := by
  intro served
  refine ⟨?_, ?_, ?_, ?_⟩
  · rcases Request.ofLine_cases line with ⟨blank, read⟩ | ⟨keyword, arguments, words, read⟩
    · have run : served = (.ok (.err .emptyCommand), console) := run_dispatch_of_error read _
      rw [run]
      exact ⟨fun _ => blank, fun _ => rfl⟩
    · constructor
      · intro empty
        have permitted := permits_dispatch read empty
        exact absurd permitted (Verb.emptyCommand_not_mem_listed _)
      · intro blank
        rw [blank] at words
        cases words
  · intro keyword reply found replied
    obtain ⟨arguments, read⟩ := Request.ofLine_of_keyword? found
    exact permits_dispatch read replied
  · intro found
    obtain ⟨arguments, read⟩ := Request.ofLine_of_keyword? found
    have run : served = (.ok (.okWith "PONG"), console) := run_dispatch_of_admitted read rfl
    rw [run]
    rfl
  · intro cut
    constructor
    · intro unwatched
      have works := (composed_dispatch line).works console
      exact (isStopped_iff (works.unwatched unwatched)).mp (stopsOn_dispatch line console cut)
    · obtain ⟨arguments, isSwipe, several⟩ := swipe_of_no_reply cut
      obtain ⟨request, read, isVerb, areArguments⟩ := Command.swipe_of_ofLine isSwipe
      exact ⟨request, arguments, read, isVerb, areArguments, several⟩

theorem replies_within_contract_of_cut_swipe :
    let console : Console InMemoryDevice := .start .primary {} { due := some 20 }
    console.watch = {} ∧
      ((dispatch "swipe 0 0 50 0 48").run console).1 = .error .shutdown ∧
      ((dispatch "swipe 0 0 50 0 48").run console).2.shutdown.requested = true := by
  intro console
  obtain ⟨_, _, _, noReply⟩ := replies_within_contract "swipe 0 0 50 0 48" console
  cases result : ((dispatch "swipe 0 0 50 0 48").run console).1 with
  | ok reply =>
      have isError : ((dispatch "swipe 0 0 50 0 48").run console).1.isOk = false := by
        decide +kernel
      rw [result] at isError
      cases isError
  | error interruption =>
      cases interruption
      exact ⟨rfl, rfl, (noReply result).1 rfl⟩

end Console

end RemoteInput
