import RemoteInput.Proofs.Number.Finite
import RemoteInput.Proofs.Request
import RemoteInput.Proofs.Request.Forms
import RemoteInput.Proofs.Session.Conversation

/-!
# What presses on the screen

The places of touch events are finite numbers, and so are the pressures of swipes.  The
pressure of a tap is what its third word is read as: a word that is no literal is refused,
but a literal may also say infinity, or no number, and the device gets that.
-/

namespace RemoteInput

open Binary32 (Literal FiniteLiteral Exponent.Reads Exponent.Writes)

namespace Request

/-- A line that asks for a tap, with the words of its arguments. -/
def IsTap (line : String) (words : List (List Char)) : Prop :=
  ∃ keyword, Text.words line.toList = keyword :: words ∧
    String.ofList (Text.upper keyword) = "TAP"

/-- A line that asks for a tap with a pressure that is not read as a finite number. -/
def PressesUnreal (line : String) : Prop :=
  ∃ x y word rest, IsTap line (x :: y :: word :: rest) ∧ ¬ FiniteLiteral Exponent.Reads word

/-! ## Taps among lines -/

theorem IsTap.command {line : String} {words : List (List Char)} (isTap : IsTap line words) :
    ∃ arguments : String, Text.words arguments.toList = words ∧
      Command.ofLine? line = some ((Tap.ofArguments arguments).map .tap) := by
  obtain ⟨keyword, isLine, isKeyword⟩ := isTap
  obtain ⟨arguments, same, read⟩ := ofLine_of_words isLine
  have verb : Verb.ofKeyword "TAP" = .tap := by decide
  rw [isKeyword, verb] at read
  exact ⟨arguments, same, by simp [Command.ofLine?, read, Command.ofRequest?]⟩

theorem isTap_of_command {line : String} {tap : Tap}
    (isCommand : Command.ofLine? line = some (.ok (.tap tap))) :
    ∃ words, IsTap line words ∧ Tap.Spelled words tap := by
  obtain ⟨request, read, requested⟩ := Command.requested_of_ofLine isCommand
  cases requested with
  | tap isRead =>
      rcases ofLine_cases line with ⟨_, unread⟩ | ⟨keyword, arguments, isLine, isRequest⟩
      · rw [unread] at read
        cases read
      · rw [isRequest] at read
        injection read with parts
        injection parts with verb same
        subst same
        have isKeyword := Verb.keyword_ofKeyword (String.ofList (Text.upper keyword))
        rw [verb] at isKeyword
        exact ⟨_, ⟨keyword, isLine, isKeyword.symm⟩, Tap.ofArguments_eq_ok_iff.mp isRead⟩

/-! ## Pressures -/

theorem Tap.Spelled.isFinite_iff {x y word : List Char} {rest : List (List Char)} {tap : Tap}
    (spelled : Spelled (x :: y :: word :: rest) tap) :
    tap.pressure.isFinite ↔ FiniteLiteral Exponent.Reads word := by
  have read : Binary32.ofLiteral? word = some tap.pressure := by
    cases spelled with
    | pressed _ _ third _ => exact third
    | complete _ _ third _ => exact third
  rw [← Binary32.isFinite_ofLiteral?_iff, read]
  simp

theorem Tap.Spelled.isFinite_or {words : List (List Char)} {tap : Tap}
    (spelled : Spelled words tap) :
    tap.pressure.isFinite ∨ ∃ x y word rest, words = x :: y :: word :: rest ∧
      ¬ FiniteLiteral Exponent.Reads word := by
  by_cases finite : tap.pressure.isFinite
  · exact .inl finite
  · right
    have all := spelled
    cases spelled with
    | place _ _ full _ =>
        rw [full] at finite
        exact absurd (Binary32.isFinite_ofInt 1) finite
    | pressed => exact ⟨_, _, _, _, rfl, mt all.isFinite_iff.mpr finite⟩
    | complete => exact ⟨_, _, _, _, rfl, mt all.isFinite_iff.mpr finite⟩

/-- A pressure is refused if it is no literal, and for nothing else. -/
theorem Tap.refuses_pressure_iff {arguments : String} {x y word : List Char}
    {rest : List (List Char)} (words : Text.words arguments.toList = x :: y :: word :: rest)
    (first : IsInt32 x) (second : IsInt32 y) :
    Tap.ofArguments arguments = .error .invalidPressure ↔ ¬ Literal word := by
  rw [Tap.form_governs.refuses, words]
  constructor
  · intro refuses literal
    cases refuses with
    | fault enough fault =>
        have later := (firstFault_cons_iff first).mp fault
        have last := (firstFault_cons_iff literal).mp ((firstFault_cons_iff second).mp later)
        exact absurd last.refusal_mem (by decide)
  · intro none
    have here : FirstFault [literalField .invalidPressure, numberField .invalidButtons]
        (word :: rest) .invalidPressure := .here none
    exact .fault (by simp [form]) ((here.later second).later first)

/-- Where the touch events of a line are, and with which pressure. -/
theorem finite_touches {line : String} {touch : TouchEvent} (member : touch ∈ touches line) :
    (touch.pointer.x.isFinite ∧ touch.pointer.y.isFinite) ∧
      (touch.pointer.pressure.isFinite ∨ PressesUnreal line) := by
  unfold touches at member
  split at member
  · next command isCommand =>
    obtain ⟨action, x, y, pressure, buttons, rfl, isPressure⟩ := Command.mem_touches member
    refine ⟨by simp [TouchEvent.touch, Pointer.moveTo, Binary32.isFinite_ofInt], ?_⟩
    rcases isPressure with rfl | ⟨tap, rfl, rfl⟩
    · exact .inl rfl
    · obtain ⟨words, isTap, spelled⟩ := isTap_of_command isCommand
      rcases spelled.isFinite_or with finite | ⟨_, _, _, _, rfl, unreal⟩
      · exact .inl finite
      · exact .inr ⟨_, _, _, _, isTap, unreal⟩
  · cases member
  · cases member

end Request

namespace Console

open Request

variable {σ : Type} [Device σ]

/-! ## What is heard of taps -/

/-- What comes of a tap with some arguments. -/
inductive TapHeard (arguments : Except Refusal Tap) (heard : Exchange) : Prop where
  | refused {refusal : Refusal} (isRefused : arguments = .error refusal)
      (result : heard.result = .ok (.err refusal)) (events : heard.events = [])
  | made {tap : Tap} {down up : TouchEvent} (isRead : arguments = .ok tap)
      (result : heard.result = .ok .done ∨ heard.result = .ok (.err .injectFailed))
      (events : touches heard.events = [down, up])
      (pressures : down.pointer.pressure = tap.pressure ∧ up.pointer.pressure = tap.pressure)

theorem tapHeard_hear {console : Console σ} {message : Message} {words : List (List Char)}
    (isTap : IsTap message.line words) (capable : console.acceptsInput = true) :
    ∃ arguments : String, Text.words arguments.toList = words ∧
      TapHeard (Tap.ofArguments arguments) (console.hear message).1 := by
  obtain ⟨arguments, same, isCommand⟩ := isTap.command
  refine ⟨arguments, same, ?_⟩
  let start : Console σ := { console with
    toMoment := message.moment.getD console.toMoment, journal := #[] }
  have opens : start.acceptsInput = true := capable
  have run := dispatch_of_command isCommand opens
  have heard : (console.hear message).1 =
      { line := message.line
        result := ((dispatch message.line).run start).1
        events := ((dispatch message.line).run start).2.journal.toList } :=
    rfl
  rw [heard, run]
  cases read : Tap.ofArguments arguments with
  | error refusal => exact .refused rfl rfl rfl
  | ok tap =>
      obtain ⟨upTime, first, second, result, _, _, injects⟩ := tap_cases tap start
      have tapped : (withArguments ((Except.ok tap).map Command.tap) carryOut).run start =
          (gestureReply ((Console.tap tap).run start).1).run ((Console.tap tap).run start).2 :=
        rfl
      have uncut : ((Console.tap tap).run start).1 ≠ .error .interrupted := by
        rw [result]
        cases first <;> cases second <;> nofun
      have reply := gestureReply_of_uncut uncut ((Console.tap tap).run start).2
      obtain ⟨events, proceeds, _, injected⟩ :=
        (injects.idle (injects_gestureReply ((Console.tap tap).run start).1 _)).journal
      let after := ((gestureReply ((Console.tap tap).run start).1).run
        ((Console.tap tap).run start).2).2
      let pointer := start.pointer.moveTo tap.x tap.y tap.pressure
      have isJournal : after.journal.toList = events := proceeds.journal
      have touched : touches after.journal.toList =
          [.touch start.clock start.clock .down pointer tap.buttons,
            .touch start.clock upTime .up pointer tap.buttons] := by
        rw [isJournal, touches, injected]
        rfl
      rw [tapped]
      refine .made rfl ?_ touched ⟨rfl, rfl⟩
      rw [reply]
      split
      · exact .inl rfl
      · exact .inr rfl

theorem TapHeard.by_pressure {arguments : String} {heard : Exchange} {x y word : List Char}
    {rest : List (List Char)} (made : TapHeard (Tap.ofArguments arguments) heard)
    (words : Text.words arguments.toList = x :: y :: word :: rest) (first : IsInt32 x)
    (second : IsInt32 y) :
    (heard.result = .ok (.err .invalidPressure) ↔ ¬ Literal word) ∧
      (¬ Literal word → heard.events = []) ∧
      (Tap.form.Accepts (x :: y :: word :: rest) →
        (touches heard.events).length = 2 ∧ ∀ touch ∈ touches heard.events,
          (touch.pointer.pressure.isFinite ↔ FiniteLiteral Exponent.Reads word)) := by
  have refuses := Tap.refuses_pressure_iff words first second
  cases made with
  | @refused refusal isRefused result events =>
      refine ⟨?_, fun _ => events, ?_⟩
      · rw [← refuses, result, isRefused]
        simp
      · intro accepts
        rw [← words] at accepts
        obtain ⟨tap, read⟩ := (Tap.form_governs.accepts arguments).mpr accepts
        rw [isRefused] at read
        cases read
  | @made tap down up isRead result events pressures =>
      have literal : Literal word := by
        by_contra none
        have refused := refuses.mpr none
        rw [isRead] at refused
        cases refused
      refine ⟨?_, fun none => absurd literal none, ?_⟩
      · apply iff_of_false ?_ (not_not_intro literal)
        rcases result with isDone | isFailed
        · rw [isDone]
          nofun
        · rw [isFailed]
          nofun
      · intro _
        have spelled := Tap.ofArguments_eq_ok_iff.mp isRead
        rw [words] at spelled
        rw [events]
        exact ⟨rfl, by simp [pressures, spelled.isFinite_iff]⟩

/-! ## What reaches the device -/

/-- Every touch event has finite coordinates, and a finite pressure unless its line is a tap
with a pressure that is no finite literal.  Such a tap is refused only if its pressure is no
literal at all, and then nothing happens; the words for what is no finite number, and the
decimals that are too large, are literals and do reach the device. -/
theorem pressures_are_as_written {console : Console σ} (inUse : console.InUse)
    (messages : List Message) :
    (∀ exchange ∈ console.converse messages,
      (∀ touch ∈ touches exchange.events,
        (touch.pointer.x.isFinite ∧ touch.pointer.y.isFinite) ∧
          (touch.pointer.pressure.isFinite ∨ PressesUnreal exchange.line)) ∧
      ∀ x y word rest, IsTap exchange.line (x :: y :: word :: rest) → IsInt32 x → IsInt32 y →
        console.acceptsInput = true →
        (exchange.result = .ok (.err .invalidPressure) ↔ ¬ Literal word) ∧
        (¬ Literal word → exchange.events = []) ∧
        (Tap.form.Accepts (x :: y :: word :: rest) →
          (touches exchange.events).length = 2 ∧ ∀ touch ∈ touches exchange.events,
            (touch.pointer.pressure.isFinite ↔ FiniteLiteral Exponent.Reads word))) ∧
    ∀ word, (FiniteLiteral Exponent.Reads word → Literal word) ∧
      (word.length < 65000 →
        (FiniteLiteral Exponent.Reads word ↔ FiniteLiteral Exponent.Writes word)) := by
  constructor
  · intro exchange member
    constructor
    · intro touch isTouch
      have outline := inUse.outline_converse messages exchange member
      have planned : touch.untimed ∈ Request.touches exchange.line :=
        outline.subset (List.mem_map_of_mem isTouch)
      obtain ⟨place, pressure⟩ := finite_touches planned
      exact ⟨place, pressure⟩
    · intro x y word rest isTap first second capable
      obtain ⟨earlier, message, _, same, rfl⟩ := inUse.mem_converse member
      obtain ⟨arguments, words, heard⟩ := tapHeard_hear isTap (same.trans capable)
      exact heard.by_pressure words first second
  · intro word
    refine ⟨?_, Binary32.finiteLiteral_iff⟩
    intro literal
    obtain ⟨number, read, _⟩ := Binary32.isFinite_ofLiteral?_iff.mpr literal
    exact Binary32.isSome_ofLiteral?_iff.mp (Option.isSome_of_eq_some read)

theorem pressures_are_as_written_of_heavy_tap :
    let fresh : Console InMemoryDevice := .start .primary { keepsEvents := false } {}
    let opened := (begin.run fresh).2
    let heard := (opened.hear ⟨"TAP 1 2 heavy", none⟩).1
    opened.InUse ∧ heard.result = .ok (.err .invalidPressure) ∧ heard.events = [] := by
  intro fresh opened heard
  have opens : opened.InUse := .opened rfl
  obtain ⟨exchanges, _⟩ := pressures_are_as_written opens [⟨"TAP 1 2 heavy", none⟩]
  have noLiteral : ¬ Literal "heavy".toList := by
    rw [← Binary32.isSome_ofLiteral?_iff]
    decide +kernel
  have isTap : IsTap "TAP 1 2 heavy" ["1".toList, "2".toList, "heavy".toList] :=
    ⟨"TAP".toList, by decide +kernel, by decide +kernel⟩
  have first : IsInt32 "1".toList := isSome_int32?_iff.mp (by decide +kernel)
  have second : IsInt32 "2".toList := isSome_int32?_iff.mp (by decide +kernel)
  obtain ⟨refused, nothing, _⟩ := (exchanges heard List.mem_cons_self).2 _ _ _ _ isTap first second
    (by decide +kernel)
  exact ⟨opens, refused.mpr noLiteral, nothing noLiteral⟩

/-- A tap with a pressure that is no number is done. -/
theorem unreal_pressures_reach_device :
    let fresh : Console InMemoryDevice := .start .primary { keepsEvents := false } {}
    let opened := (begin.run fresh).2
    let heard := (opened.hear ⟨"TAP 1 2 nan", none⟩).1
    opened.InUse ∧ opened.acceptsInput = true ∧
      IsTap "TAP 1 2 nan" ["1".toList, "2".toList, "nan".toList] ∧
      ¬ FiniteLiteral Exponent.Writes "nan".toList ∧
      heard.result = .ok .done ∧
      (touches heard.events).map (·.pointer.pressure) = [.notANumber, .notANumber] := by
  intro fresh opened heard
  have unreal : ¬ FiniteLiteral Exponent.Writes "nan".toList := by
    rw [← Binary32.finiteLiteral_iff (by decide), ← Binary32.isFinite_ofLiteral?_iff]
    have read : Binary32.ofLiteral? "nan".toList = some .notANumber := by decide +kernel
    rintro ⟨number, isNumber, finite⟩
    rw [read] at isNumber
    cases isNumber
    cases finite
  exact ⟨.opened rfl, by decide +kernel, ⟨"TAP".toList, by decide +kernel, by decide +kernel⟩,
    unreal, by decide +kernel, by decide +kernel⟩

end Console

end RemoteInput
