import RemoteInput.Device.Rehearsal
import RemoteInput.Proofs.Console.Calls
import RemoteInput.Proofs.Console.Commands
import RemoteInput.Proofs.Request.Payload

/-!
# Typing a text

A text is typed one character after the other, whatever becomes of each.  For a
character the device is asked once for the key events, and these are injected up
to the first that fails: `Keying` is what that comes to.  A character counts as
typed if the device knew it and all its key events were accepted.

`text_is_typed` says this of a text, and what is replied to the request for it.
-/

namespace RemoteInput

namespace Injected

/-- The injection as a call that was answered. -/
def asked (injected : Injected) : Asked :=
  { call := .inject injected.event injected.display, answer := injected.answer }

/-- The injections are the planned ones, up to the first that fails. -/
def UpToFailure (planned : List Injection) (calls : List Injected) : Prop :=
  calls.map event = planned.take (calls.findIdx (fun call => !call.accepted) + 1)

theorem upToFailure_of_refused {call : Injected} (refused : call.accepted = false)
    (rest : List Injection) : UpToFailure (call.event :: rest) [call] := by
  simp [UpToFailure, List.findIdx_cons, refused]

theorem UpToFailure.cons {call : Injected} {calls : List Injected}
    {rest : List Injection} (goesOn : UpToFailure rest calls)
    (accepted : call.accepted = true) :
    UpToFailure (call.event :: rest) (call :: calls) := by
  rw [UpToFailure, findIdx_refused_cons accepted, List.map_cons, List.take_succ_cons,
    goesOn]

/-- Injections of which none failed are all that were planned. -/
theorem UpToFailure.whole {planned : List Injection} {calls : List Injected}
    (goesOn : UpToFailure planned calls)
    (accepted : calls.all Injected.accepted = true) :
    calls.map event = planned := by
  have index : calls.findIdx (fun call => !call.accepted) = calls.length := by
    rw [List.findIdx_eq_length]
    intro call member
    rw [List.all_eq_true.mp accepted call member]
    rfl
  rw [UpToFailure, index] at goesOn
  have length := congrArg List.length goesOn
  rw [List.length_map, List.length_take] at length
  rw [goesOn, List.take_of_length_le]
  omega

end Injected

/-- A character of a text, the key events for it as the device answered, and those
that were injected. -/
structure Keying where
  character : Char
  events : Option (List KeyEvent)
  injected : List Injected

namespace Keying

/-- The calls that typing the character came to. -/
def asked (keying : Keying) : List Asked :=
  { call := .keysFor (Console.spelling keying.character), answer := keying.events } ::
    keying.injected.map Injected.asked

/-- The device knew the character, and accepted every key event that was injected
for it. -/
def succeeded (keying : Keying) : Bool :=
  keying.events.isSome && keying.injected.all Injected.accepted

/-- The key events were injected into a display in order, up to the first that
failed; none was injected for a character that the device did not know. -/
structure Sound (display : DisplayId) (keying : Keying) : Prop where
  injected : Injected.UpToFailure ((keying.events.getD []).map .key) keying.injected
  /-- All were injected for a character that was typed. -/
  whole : keying.succeeded = true →
    keying.injected.map Injected.event = (keying.events.getD []).map .key
  display : ∀ call ∈ keying.injected, call.display = display

theorem sound_of_upToFailure {display : DisplayId} {keying : Keying}
    (injected : Injected.UpToFailure ((keying.events.getD []).map .key) keying.injected)
    (onDisplay : ∀ call ∈ keying.injected, call.display = display) :
    keying.Sound display := by
  refine ⟨injected, ?_, onDisplay⟩
  intro succeeded
  apply injected.whole
  rw [Keying.succeeded, Bool.and_eq_true] at succeeded
  exact succeeded.2

end Keying

namespace TypingReport

/-- The report of two texts, one after the other. -/
def add (earlier later : TypingReport) : TypingReport :=
  ⟨earlier.typed + later.typed, earlier.skipped + later.skipped⟩

theorem add_assoc (first second third : TypingReport) :
    (first.add second).add third = first.add (second.add third) := by
  simp [add, Nat.add_assoc]

theorem count_eq_add (report : TypingReport) (typed : Bool) :
    report.count typed = report.add (none.count typed) := by
  cases typed <;> rfl

theorem typed_add (earlier later : TypingReport) :
    (earlier.add later).typed = earlier.typed + later.typed :=
  rfl

theorem total_add (earlier later : TypingReport) :
    (earlier.add later).total = earlier.total + later.total := by
  simp only [add, total]
  omega

end TypingReport

namespace Console

variable {σ : Type} [Device σ]

/-! ## One character -/

private theorem consults_inject (event : Injection) (console : Console σ) :
    Consults console
      [Injected.asked
        { event, display := console.display, answer := ((inject event).run console).1 }]
      ((inject event).run console).2 :=
  consults_ask console (.inject event console.display)

/-- Key events are injected up to the first that fails. -/
theorem injectAll_cases (events : List KeyEvent) (console : Console σ) :
    ∃ injected : List Injected,
      Injected.UpToFailure (events.map .key) injected ∧
      (∀ call ∈ injected, call.display = console.display) ∧
      Consults console (injected.map Injected.asked)
        ((injectAll events).run console).2 ∧
      ((injectAll events).run console).1 = injected.all Injected.accepted := by
  induction events generalizing console with
  | nil =>
      refine ⟨[], rfl, ?_, .refl console, rfl⟩
      intro call member
      cases member
  | cons event rest induction =>
      have first := consults_inject (.key event) console
      cases injection : (inject (.key event)).run console with
      | mk result after =>
          rw [injection] at first
          let call : Injected :=
            { event := .key event, display := console.display, answer := result }
          cases result with
          | error error =>
              have run : (injectAll (event :: rest)).run console = (false, after) := by
                rw [injectAll, StateT.run_bind, injection]
                rfl
              rw [run]
              refine ⟨[call], ?_, ?_, first, rfl⟩
              · exact Injected.upToFailure_of_refused rfl (rest.map .key)
              · intro other member
                rw [List.mem_singleton.mp member]
          | ok =>
              have run : (injectAll (event :: rest)).run console =
                  (injectAll rest).run after := by
                rw [injectAll, StateT.run_bind, injection]
                rfl
              rw [run]
              obtain ⟨injected, goesOn, display, consults, result⟩ := induction after
              refine ⟨call :: injected, ?_, ?_, ?_, ?_⟩
              · exact goesOn.cons rfl
              · intro other member
                rcases List.mem_cons.mp member with isFirst | isLater
                · rw [isFirst]
                · rw [display other isLater]
                  exact first.display
              · exact first.trans consults
              · exact result

/-- What typing a character comes to. -/
theorem typeChar_cases (c : Char) (console : Console σ) :
    ∃ keying : Keying, keying.character = c ∧ keying.Sound console.display ∧
      Consults console keying.asked ((typeChar c).run console).2 ∧
      ((typeChar c).run console).1 = keying.succeeded := by
  have first := consults_ask console (.keysFor (spelling c))
  cases answered : (ask (.keysFor (spelling c))).run console with
  | mk answer after =>
      rw [answered] at first
      cases answer with
      | none =>
          have run : (typeChar c).run console = (false, after) := by
            rw [typeChar, StateT.run_bind, answered]
            rfl
          rw [run]
          refine ⟨{ character := c, events := none, injected := [] }, rfl, ?_, first, rfl⟩
          apply Keying.sound_of_upToFailure
          · rfl
          · intro call member
            cases member
      | some events =>
          have run : (typeChar c).run console = (injectAll events).run after := by
            rw [typeChar, StateT.run_bind, answered]
            rfl
          rw [run]
          obtain ⟨injected, upTo, display, consults, result⟩ :=
            injectAll_cases events after
          refine ⟨{ character := c, events := some events, injected }, rfl, ?_, ?_, ?_⟩
          · apply Keying.sound_of_upToFailure
            · exact upTo
            · intro call member
              rw [display call member]
              exact first.display
          · exact first.trans consults
          · rw [Keying.succeeded, Option.isSome_some, Bool.true_and]
            exact result

/-! ## Texts -/

/-- The console after a character; a skipped one is noted. -/
def afterChar (c : Char) (console : Console σ) : Console σ :=
  let typed := (typeChar c).run console
  if typed.1 then
    typed.2
  else
    typed.2.record (.noted { severity := .warn, message := skippedMessage c })

private theorem run_typeOn_cons (report : TypingReport) (c : Char) (rest : List Char)
    (console : Console σ) :
    (typeOn report (c :: rest)).run console =
      (typeOn (report.count ((typeChar c).run console).1) rest).run
        (afterChar c console) := by
  have run : (typeOn report (c :: rest)).run console =
      (do
        if !((typeChar c).run console).1 then
          note .warn (skippedMessage c) []
        typeOn (report.count ((typeChar c).run console).1) rest :
          Act σ TypingReport).run ((typeChar c).run console).2 :=
    rfl
  rw [run, afterChar]
  cases ((typeChar c).run console).1 with
  | true => rfl
  | false => rfl

/-- The report that typing begins with does not matter to what is typed. -/
private theorem run_typeOn (report : TypingReport) (text : List Char)
    (console : Console σ) :
    (typeOn report text).run console =
      (report.add ((typeOn .none text).run console).1,
        ((typeOn .none text).run console).2) := by
  induction text generalizing report console with
  | nil => rfl
  | cons c rest induction =>
      rw [run_typeOn_cons, run_typeOn_cons, induction,
        induction (TypingReport.count .none _), TypingReport.count_eq_add,
        TypingReport.add_assoc]

private theorem run_typeOn_append (report : TypingReport) (first second : List Char)
    (console : Console σ) :
    (typeOn report (first ++ second)).run console =
      (typeOn ((typeOn report first).run console).1 second).run
        ((typeOn report first).run console).2 := by
  induction first generalizing report console with
  | nil => rfl
  | cons c rest induction =>
      rw [List.cons_append, run_typeOn_cons, run_typeOn_cons, induction]

/-- A text and another one are typed like the two in one. -/
theorem run_typeText_append (text more : String) (console : Console σ) :
    let typed := (typeText text).run console
    let later := (typeText more).run typed.2
    (typeText (text ++ more)).run console = (typed.1.add later.1, later.2) := by
  intro typed later
  unfold typeText
  rw [String.toList_append, run_typeOn_append, run_typeOn]
  rfl

private theorem typeOn_cases (text : List Char) (console : Console σ) :
    ∃ keyings : List Keying,
      keyings.map Keying.character = text ∧
      (∀ keying ∈ keyings, keying.Sound console.display) ∧
      Consults console (keyings.flatMap Keying.asked)
        ((typeOn .none text).run console).2 ∧
      ((typeOn .none text).run console).1.typed = keyings.countP Keying.succeeded ∧
      ((typeOn .none text).run console).1.total = text.length := by
  induction text generalizing console with
  | nil =>
      refine ⟨[], rfl, ?_, .refl console, rfl, rfl⟩
      intro keying member
      cases member
  | cons c rest induction =>
      obtain ⟨first, character, sound, consults, succeeded⟩ := typeChar_cases c console
      have goesOn : Consults console first.asked (afterChar c console) := by
        unfold afterChar
        dsimp only
        split
        · exact consults
        · simpa using consults.trans (consults_note _ _)
      obtain ⟨others, characters, areSound, later, typed, total⟩ :=
        induction (afterChar c console)
      rw [run_typeOn_cons, run_typeOn]
      refine ⟨first :: others, ?_, ?_, ?_, ?_, ?_⟩
      · rw [List.map_cons, character, characters]
      · intro keying member
        rcases List.mem_cons.mp member with isFirst | isOther
        · rw [isFirst]
          exact sound
        · rw [← goesOn.display]
          exact areSound keying isOther
      · exact goesOn.trans later
      · rw [TypingReport.typed_add, typed, succeeded, List.countP_cons]
        cases first.succeeded <;> simp [TypingReport.count, TypingReport.none, Nat.add_comm]
      · rw [TypingReport.total_add, total, succeeded, List.length_cons]
        cases first.succeeded <;>
          simp [TypingReport.count, TypingReport.none, TypingReport.total, Nat.add_comm]

/-! ## Requests for a text -/

/-- The request for a text that can be read types the text, and tells whether
anything was typed. -/
private theorem run_typePayload {payload text : String}
    (decoded : Payload.decode payload = .ok text) (console : Console σ) :
    let typed := (typeText text).run console
    ∃ after, Consults typed.2 [] after ∧
      (typePayload payload).run console =
        (if text = "" ∨ 0 < typed.1.typed then .done else .err .textNotSupported,
          after) := by
  intro typed
  by_cases empty : text = ""
  · subst empty
    have run : (typePayload payload).run console = (.done, console) := by
      unfold typePayload
      rw [decoded]
      rfl
    rw [run, if_pos (.inl rfl)]
    exact ⟨console, .refl console, rfl⟩
  · have run : (typePayload payload).run console =
        (if typed.1.typed = 0 then
          pure (.err .textNotSupported)
        else do
          if typed.1.skipped > 0 then
            notePartial typed.1
          return .done : Act σ Reply).run typed.2 := by
      unfold typePayload
      rw [decoded]
      dsimp only
      rw [if_neg empty]
      rfl
    rw [run]
    by_cases nothing : typed.1.typed = 0
    · have notTyped : ¬ (text = "" ∨ 0 < typed.1.typed) := by simp [empty, nothing]
      rw [if_pos nothing, if_neg notTyped]
      exact ⟨typed.2, .refl _, rfl⟩
    · have isTyped : text = "" ∨ 0 < typed.1.typed := .inr (Nat.pos_of_ne_zero nothing)
      rw [if_neg nothing, if_pos isTyped]
      by_cases skips : typed.1.skipped > 0
      · rw [if_pos skips]
        exact ⟨_, consults_note _ typed.2, rfl⟩
      · rw [if_neg skips]
        exact ⟨typed.2, .refl _, rfl⟩

/-- A text is typed one character after the other: the device is asked once for
each character, and nothing else but to inject the key events that it answered, up
to the first that fails.  The report counts the characters that were typed, and the
others.  Two texts one after the other are typed like the two in one.  On a display
that takes input, the request for a text asks the same, and it is done if the text
is empty or a character of it was typed. -/
theorem text_is_typed (text : String) (console : Console σ) :
    let typed := (typeText text).run console
    (∃ keyings : List Keying,
      keyings.map Keying.character = text.toList ∧
      (∀ keying ∈ keyings, keying.Sound console.display) ∧
      Consults console (keyings.flatMap Keying.asked) typed.2 ∧
      typed.1.typed = keyings.countP Keying.succeeded ∧
      typed.1.typed + typed.1.skipped = text.length ∧
      ∀ line request, Request.ofLine line = .ok request → request.verb = .text →
        Payload.decode request.arguments = .ok text → console.acceptsInput = true →
        ∃ after, Consults console (keyings.flatMap Keying.asked) after ∧
          (dispatch line).run console =
            (.ok (if text = "" ∨ 0 < typed.1.typed then .done else .err .textNotSupported),
              after)) ∧
    ∀ more,
      let later := (typeText more).run typed.2
      (typeText (text ++ more)).run console = (typed.1.add later.1, later.2) := by
  intro typed
  obtain ⟨keyings, characters, sound, consults, counted, total⟩ :=
    typeOn_cases text.toList console
  refine ⟨⟨keyings, characters, sound, consults, counted, ?_, ?_⟩, ?_⟩
  · rw [String.length_toList] at total
    exact total
  · intro line request read isText decoded capable
    obtain ⟨after, idle, run⟩ := run_typePayload decoded console
    have whole := consults.trans idle
    rw [List.append_nil] at whole
    refine ⟨after, whole, ?_⟩
    rw [run_dispatch_of_admitted read (by simp [capable])]
    obtain ⟨verb, payload⟩ := request
    subst isText
    have served : (serveRequest { verb := .text, arguments := payload }).run console =
        (.ok ((typePayload payload).run console).1,
          ((typePayload payload).run console).2) :=
      rfl
    rw [served, run]
  · intro more
    exact run_typeText_append text more console

theorem text_is_typed_of_refused_key :
    let console : Console Rehearsal :=
      .start .primary { failAt := [3], keymap := [("b", none)] } {}
    let typed := (typeText "a\u00E4b").run console
    typed.1 = ⟨1, 2⟩ ∧
    (calls typed.2.journal.toList).filter (· matches .keysFor _) =
      [.keysFor ['a'], .keysFor ['\u0308', 'a'], .keysFor ['b']] ∧
    ∃ asked after, asked.map Asked.call = calls typed.2.journal.toList ∧
      Consults console asked after ∧
      (dispatch "TEXT YcOkYg==").run console = (.ok .done, after) := by
  intro console typed
  have report : typed.1 = ⟨1, 2⟩ := by decide +kernel
  have read : Request.ofLine "TEXT YcOkYg==" =
      .ok { verb := .text, arguments := "YcOkYg==" } := by
    rfl
  have decoded : Payload.decode "YcOkYg==" = .ok "a\u00E4b" := by
    have payload : Payload.encode "a\u00E4b" = "YcOkYg==" := by decide +kernel
    rw [← payload, Payload.decode_encode]
  obtain ⟨⟨keyings, _, _, consults, _, _, serves⟩, _⟩ := text_is_typed "a\u00E4b" console
  have types : (typeText "a\u00E4b").run console = typed := rfl
  rw [types] at consults
  obtain ⟨after, same, replied⟩ := serves _ _ read rfl decoded rfl
  rw [types, report] at replied
  obtain ⟨events, journal, isAsked⟩ := consults.asks.journal
  have isJournal : typed.2.journal.toList = events := journal.trans (List.nil_append events)
  refine ⟨report, by decide +kernel, keyings.flatMap Keying.asked, after, ?_, same, ?_⟩
  · rw [isJournal, isAsked]
  · rw [replied, if_pos (.inr Nat.one_pos)]

end Console

end RemoteInput
