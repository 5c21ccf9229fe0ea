import RemoteInput.Device.InMemory
import RemoteInput.Proofs.Console.Calls
import RemoteInput.Proofs.Console.Injections
import RemoteInput.Proofs.Console.Refusals
import RemoteInput.Proofs.Request

/-!
# The gate

Whether the display takes input is asked when the console is opened, and never
again; what the device would answer later does not count.  On a display that
takes no input the clipboard can be used, and nothing else gets past the gate.
On a display that takes input nobody meets the gate.
-/

namespace RemoteInput

/-! ## One line -/

/-- A call that gets past the gate. -/
def Call.Passes (accepts : Bool) (call : Call) : Prop :=
  (∀ display, call ≠ .inputCapable display) ∧ (accepts = false → call.IsClipboard)

theorem Verb.passes {verb : Verb} {call : Call} (asks : verb.asks call) {accepts : Bool}
    (admitted : (verb.requiresInput && !accepts) = false) : call.Passes accepts := by
  constructor
  · intro display same
    subst same
    cases verb <;> cases asks
  · intro incapable
    subst incapable
    cases verb with
    | clipGet => exact asks
    | clipSet => exact asks
    | ping => cases asks
    | _ => cases admitted

namespace Console

/-- A request line that met the gate if it had to, and only then. -/
def Served.Gated (accepts : Bool) (served : Served) : Prop :=
  if accepts then
    served.result ≠ .ok (.err .inputNotSupported)
  else
    ∀ keyword, Request.keyword? served.line = some keyword →
      keyword ∉ ["PING", "CLIP_GET", "CLIP_SET"] →
      served.result = .ok (.err .inputNotSupported)

variable {σ : Type} [Device σ]

theorem gated_dispatch (line : String) (console : Console σ) :
    Served.Gated console.acceptsInput { line, result := ((dispatch line).run console).1 } := by
  cases found : Request.keyword? line with
  | none =>
      have read := Request.ofLine_of_keyword?_none found
      rw [run_dispatch_of_error read, Served.Gated]
      split
      · simp
      · simp [found]
  | some keyword =>
      obtain ⟨arguments, read⟩ := Request.ofLine_of_keyword? found
      rw [run_dispatch read]
      cases capable : console.acceptsInput with
      | true =>
          have refused := refusals_serveRequest { verb := .ofKeyword keyword, arguments }
            console .inputNotSupported
          simp only [Served.Gated, Bool.not_true, Bool.and_false]
          intro unsupported
          exact Verb.supported _ (refused unsupported)
      | false =>
          simp only [Served.Gated, Bool.not_false, Bool.and_true]
          intro other isKeyword notFree
          rw [found] at isKeyword
          cases isKeyword
          have requires : (Verb.ofKeyword keyword).requiresInput = true := by
            rw [← Bool.not_eq_false, Verb.requiresInput_ofKeyword]
            exact notFree
          simp [requires]

theorem passes_dispatch (line : String) (console : Console σ) :
    ∃ asked, Asks console asked ((dispatch line).run console).2 ∧
      ∀ call ∈ asked, call.Passes console.acceptsInput := by
  cases read : Request.ofLine line with
  | error refusal =>
      rw [run_dispatch_of_error read]
      exact ⟨[], .refl console, by simp⟩
  | ok request =>
      obtain ⟨asked, asks, areAsked⟩ := (composed_dispatch line).asks console
      cases gate : request.verb.requiresInput && !console.acceptsInput with
      | true =>
          rw [run_dispatch read, gate]
          exact ⟨[], .refl console, by simp⟩
      | false =>
          refine ⟨asked, asks, ?_⟩
          intro call member
          have isAsked := areAsked call member
          simp only [Request.asks, read] at isAsked
          exact Verb.passes isAsked gate

/-- A line that needs no input is served as if the display took input, or as if
it took none. -/
theorem dispatch_of_free {line keyword : String}
    (found : Request.keyword? line = some keyword)
    (free : keyword ∈ ["PING", "CLIP_GET", "CLIP_SET"]) (console : Console σ)
    (accepts : Bool) :
    (dispatch line).run { console with acceptsInput := accepts } =
      (((dispatch line).run console).1,
        { ((dispatch line).run console).2 with acceptsInput := accepts }) := by
  obtain ⟨arguments, read⟩ := Request.ofLine_of_keyword? found
  have requires := (Verb.requiresInput_ofKeyword keyword).mpr free
  rw [run_dispatch_of_admitted read (by simp [requires]),
    run_dispatch_of_admitted read (by simp [requires])]
  exact (plain_serveRequest (Verb.isGesture_of_free requires)).blind.accepts accepts console

/-! ## Many lines -/

/-- A request line, and how the device changes of itself before it comes. -/
structure Visit (σ : Type) where
  change : σ → σ
  line : String

/-- Serves request lines while the device also changes of itself. -/
def serveVisits : List (Visit σ) → Act σ (List Served)
  | [] => pure []
  | visit :: rest => do
      modify fun console => { console with device := visit.change console.device }
      let result ← dispatch visit.line
      let others ← serveVisits rest
      return { line := visit.line, result } :: others

/-- What some lines come to at the gate. -/
theorem gated_serveVisits (visits : List (Visit σ)) (console : Console σ) :
    let served := (serveVisits visits).run console
    served.1.map Served.line = visits.map Visit.line ∧
      (∀ one ∈ served.1, one.Gated console.acceptsInput) ∧
      ∃ events, served.2.journal.toList = console.journal.toList ++ events ∧
        ∀ call ∈ calls events, call.Passes console.acceptsInput := by
  induction visits generalizing console with
  | nil =>
      refine ⟨rfl, ?_, [], (List.append_nil _).symm, ?_⟩
      · intro one member
        cases member
      · intro call member
        cases member
  | cons visit rest induction =>
      let changed : Console σ := { console with device := visit.change console.device }
      let first := (dispatch visit.line).run changed
      obtain ⟨_, injects, _⟩ := (composed_dispatch visit.line).injects changed
      have sameGate : first.2.acceptsInput = console.acceptsInput := injects.acceptsInput
      obtain ⟨asked, asks, passes⟩ := passes_dispatch visit.line changed
      obtain ⟨events, journal, rfl⟩ := asks.journal
      obtain ⟨lines, areGated, others, journalLater, pass⟩ := induction first.2
      rw [sameGate] at areGated pass
      refine ⟨congrArg (visit.line :: ·) lines, ?_, events ++ others, ?_, ?_⟩
      · intro one member
        rcases List.mem_cons.mp member with isFirst | isOther
        · subst isFirst
          exact gated_dispatch visit.line changed
        · exact areGated one isOther
      · rw [← List.append_assoc]
        exact journalLater.trans (congrArg (· ++ others) journal)
      · intro call member
        rw [calls_append] at member
        rcases List.mem_append.mp member with early | late
        · exact passes call early
        · exact pass call late

/-! ## From the opening on -/

/-- Opening the console asks whether the display takes input, and nothing else,
and keeps the answer. -/
theorem asks_begin (console : Console σ) :
    Asks console [.inputCapable console.display] (begin.run console).2 ∧
      (begin.run console).2.acceptsInput =
        (Device.answer console.device (.inputCapable console.display)).answer := by
  let asked := (ask (.inputCapable console.display)).run console
  let opened : Console σ := { asked.2 with acceptsInput := asked.1 }
  have asks : Asks console [.inputCapable console.display] opened :=
    (asks_ask console _).trans (asks_of_same rfl rfl)
  rw [run_begin]
  dsimp only
  split
  · exact ⟨asks, rfl⟩
  · exact ⟨asks.trans (asks_record rfl opened), rfl⟩

/-- Whether the display takes input is asked once, when the console is opened.
However the device changes later, request lines never ask it again.  If the
display took no input then, they ask nothing but for the clipboard, and every
line with another keyword than `PING`, `CLIP_GET` or `CLIP_SET` is refused for
it; if it took input, no line is.  Lines with these three keywords are served
alike on both kinds of display. -/
theorem gate_is_decided_once (console : Console σ) (visits : List (Visit σ)) :
    let opened := (begin.run console).2
    let served := (serveVisits visits).run opened
    (∃ events, opened.journal.toList = console.journal.toList ++ events ∧
      calls events = [.inputCapable console.display]) ∧
    opened.acceptsInput =
      (Device.answer console.device (.inputCapable console.display)).answer ∧
    (∃ events, served.2.journal.toList = opened.journal.toList ++ events ∧
      (∀ display, .inputCapable display ∉ calls events) ∧
      (opened.acceptsInput = false → ∀ call ∈ calls events, call.IsClipboard)) ∧
    served.1.map Served.line = visits.map Visit.line ∧
    (opened.acceptsInput = false → ∀ one ∈ served.1, ∀ keyword,
      Request.keyword? one.line = some keyword →
      keyword ∉ ["PING", "CLIP_GET", "CLIP_SET"] →
      one.result = .ok (.err .inputNotSupported)) ∧
    (opened.acceptsInput = true → ∀ one ∈ served.1,
      one.result ≠ .ok (.err .inputNotSupported)) ∧
    ∀ line keyword, Request.keyword? line = some keyword →
      keyword ∈ ["PING", "CLIP_GET", "CLIP_SET"] →
      ∀ (later : Console σ) accepts,
        (dispatch line).run { later with acceptsInput := accepts } =
          (((dispatch line).run later).1,
            { ((dispatch line).run later).2 with acceptsInput := accepts }) := by
  intro opened served
  obtain ⟨asks, answered⟩ := asks_begin console
  obtain ⟨lines, areGated, events, journal, passes⟩ := gated_serveVisits visits opened
  refine ⟨asks.journal, answered, ⟨events, journal, ?_, ?_⟩, lines, ?_, ?_, ?_⟩
  · intro display member
    exact (passes _ member).1 display rfl
  · intro incapable call member
    exact (passes call member).2 incapable
  · intro incapable one member
    have gated := areGated one member
    simp only [Served.Gated, incapable] at gated
    exact gated
  · intro capable one member
    have gated := areGated one member
    simp only [Served.Gated, capable, if_true] at gated
    exact gated
  · intro line keyword found free later accepts
    exact dispatch_of_free found free later accepts

theorem gate_is_decided_once_of_late_capability :
    let console : Console InMemoryDevice :=
      .start .primary { inputCapable := false, clipboard := some "hi" } {}
    let wakes := fun device : InMemoryDevice => { device with inputCapable := true }
    let visits : List (Visit InMemoryDevice) :=
      [⟨id, "TAP garbage"⟩, ⟨wakes, "TAP 1 2"⟩, ⟨id, "FOO"⟩, ⟨id, "clip_get"⟩]
    let opened := (begin.run console).2
    let served := (serveVisits visits).run opened
    opened.acceptsInput = false ∧ served.2.device.inputCapable = true ∧
      served.1.map Served.result =
        [.ok (.err .inputNotSupported), .ok (.err .inputNotSupported),
          .ok (.err .inputNotSupported), .ok (.ok (some "aGk="))] ∧
      ∃ events, served.2.journal.toList = opened.journal.toList ++ events ∧
        ∀ call ∈ calls events, call.IsClipboard := by
  intro console wakes visits opened served
  obtain ⟨_, answered, ⟨events, journal, _, clipboards⟩, _⟩ :=
    gate_is_decided_once console visits
  have opens : (begin.run console).2 = opened := rfl
  have serves : (serveVisits visits).run opened = served := rfl
  rw [opens] at journal clipboards
  rw [serves] at journal
  have incapable : opened.acceptsInput = false := answered
  exact ⟨incapable, by decide +kernel, by decide +kernel, events, journal,
    clipboards incapable⟩

end Console

end RemoteInput
