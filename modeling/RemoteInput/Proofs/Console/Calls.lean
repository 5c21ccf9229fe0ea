import RemoteInput.Proofs.Console.Progress

/-!
# What acts ask

`calls` lists the calls that some events record.  `Asks` relates a console to
one that comes later and lists the calls in between; nothing but these has
changed the device.  The passing of time asks nothing, and an act asks nothing
but what it may ask: `Composed.asks`.  `Consults` lists the answers too, and they
are those of the device.
-/

namespace RemoteInput

/-- The call that an event records, if it records one. -/
def Event.call? : Event → Option Call
  | .called call _ => some call
  | _ => none

/-- The calls that some events record, in order. -/
def calls (events : List Event) : List Call :=
  events.filterMap Event.call?

theorem calls_append (earlier later : List Event) :
    calls (earlier ++ later) = calls earlier ++ calls later :=
  List.filterMap_append

/-- A call, and the answer to it. -/
structure Asked where
  call : Call
  answer : call.Answer

/-- The call that an event records, with its answer. -/
def Event.asked? : Event → Option Asked
  | .called call answer => some { call, answer }
  | _ => none

theorem calls_eq_map_asked (events : List Event) :
    calls events = (events.filterMap Event.asked?).map Asked.call := by
  have same : Event.call? = fun event => event.asked?.map Asked.call := by
    funext event
    cases event <;> rfl
  rw [List.map_filterMap, calls, same]

/-- A device that has answered some calls, one after the other. -/
def Device.answerAll {σ : Type} [Device σ] (device : σ) (calls : List Call) : σ :=
  calls.foldl (fun device call => (Device.answer device call).device) device

/-- What a device answers to some calls, one after the other. -/
def Device.answers {σ : Type} [Device σ] (device : σ) : List Call → List Asked
  | [] => []
  | call :: rest =>
      { call, answer := (Device.answer device call).answer } ::
        answers (Device.answer device call).device rest

theorem Device.answers_append {σ : Type} [Device σ] (device : σ) (earlier later : List Call) :
    Device.answers device (earlier ++ later) =
      Device.answers device earlier ++
        Device.answers (Device.answerAll device earlier) later := by
  induction earlier generalizing device with
  | nil => rfl
  | cons call rest induction => exact congrArg (_ :: ·) (induction _)

namespace Console

variable {σ : Type} [Device σ]

/-- A console that comes from another, and the calls in between. -/
structure Asks (before : Console σ) (asked : List Call) (after : Console σ) : Prop where
  journal : ∃ events, after.journal.toList = before.journal.toList ++ events ∧
    calls events = asked
  device : after.device = Device.answerAll before.device asked

theorem asks_of_same {before after : Console σ} (journal : after.journal = before.journal)
    (device : after.device = before.device) : Asks before [] after := by
  constructor
  · exact ⟨[], by simp [journal], rfl⟩
  · exact device

theorem Asks.refl (console : Console σ) : Asks console [] console :=
  asks_of_same rfl rfl

theorem Asks.trans {first middle last : Console σ} {earlier later : List Call}
    (left : Asks first earlier middle) (right : Asks middle later last) :
    Asks first (earlier ++ later) last := by
  obtain ⟨events, begins, rfl⟩ := left.journal
  obtain ⟨more, goesOn, rfl⟩ := right.journal
  constructor
  · refine ⟨events ++ more, ?_, calls_append events more⟩
    rw [goesOn, begins, List.append_assoc]
  · rw [right.device, left.device, Device.answerAll, Device.answerAll, Device.answerAll,
      List.foldl_append]

theorem asks_record {event : Event} (silent : event.call? = none) (console : Console σ) :
    Asks console [] (console.record event) := by
  constructor
  · exact ⟨[event], by simp [record], by simp [calls, silent]⟩
  · rfl

/-- A console that comes from another, and the calls in between with the answers
of the device. -/
structure Consults (before : Console σ) (asked : List Asked) (after : Console σ) :
    Prop where
  journal : ∃ events, after.journal.toList = before.journal.toList ++ events ∧
    events.filterMap Event.asked? = asked
  answers : Device.answers before.device (asked.map Asked.call) = asked
  device : after.device = Device.answerAll before.device (asked.map Asked.call)
  display : after.display = before.display

theorem Consults.asks {before after : Console σ} {asked : List Asked}
    (consults : Consults before asked after) :
    Asks before (asked.map Asked.call) after := by
  obtain ⟨events, journal, isAsked⟩ := consults.journal
  refine ⟨⟨events, journal, ?_⟩, consults.device⟩
  rw [calls_eq_map_asked, isAsked]

/-- The calls in between are those of the events in between. -/
theorem Consults.asked_eq {before after : Console σ} {asked : List Asked}
    (consults : Consults before asked after) {events : List Event}
    (journal : after.journal.toList = before.journal.toList ++ events) :
    events.filterMap Event.asked? = asked ∧ calls events = asked.map Asked.call := by
  obtain ⟨others, isToo, isAsked⟩ := consults.journal
  rw [isToo, List.append_cancel_left_eq] at journal
  rw [calls_eq_map_asked, ← journal, isAsked]
  exact ⟨rfl, rfl⟩

theorem Consults.refl (console : Console σ) : Consults console [] console :=
  ⟨⟨[], (List.append_nil _).symm, rfl⟩, rfl, rfl, rfl⟩

theorem Consults.trans {first middle last : Console σ} {earlier later : List Asked}
    (left : Consults first earlier middle) (right : Consults middle later last) :
    Consults first (earlier ++ later) last := by
  obtain ⟨events, begins, rfl⟩ := left.journal
  obtain ⟨more, goesOn, rfl⟩ := right.journal
  constructor
  · refine ⟨events ++ more, ?_, List.filterMap_append⟩
    rw [goesOn, begins, List.append_assoc]
  · rw [List.map_append, Device.answers_append, left.answers, ← left.device, right.answers]
  · rw [List.map_append]
    exact (left.asks.trans right.asks).device
  · rw [right.display, left.display]

/-- What asks nothing goes unnoticed after what asks. -/
theorem Consults.idle {first middle last : Console σ} {asked : List Asked}
    (left : Consults first asked middle) (right : Consults middle [] last) :
    Consults first asked last := by
  have both := left.trans right
  rwa [List.append_nil] at both

/-! ## Time -/

theorem timely_consults :
    Timely fun before after : Console σ => Consults before [] after := by
  constructor
  · exact .refl
  · intro first middle last left right
    exact left.trans right
  · intro console moment _
    exact ⟨⟨[], (List.append_nil _).symm, rfl⟩, rfl, rfl, rfl⟩
  · intro console _
    exact ⟨⟨[.shutdown], by simp [record], rfl⟩, rfl, rfl, rfl⟩
  · intro console _
    exact ⟨⟨[], (List.append_nil _).symm, rfl⟩, rfl, rfl, rfl⟩

theorem timely_asks : Timely fun before after : Console σ => Asks before [] after := by
  constructor
  · exact .refl
  · intro first middle last left right
    exact left.trans right
  · intro console moment later
    exact (timely_consults.move console moment later).asks
  · intro console unrequested
    exact (timely_consults.request console unrequested).asks
  · intro console ended
    exact (timely_consults.finish console ended).asks

/-! ## Acts -/

theorem consults_note (note : Note) (console : Console σ) :
    Consults console [] (console.record (.noted note)) := by
  refine ⟨⟨[.noted note], ?_, rfl⟩, rfl, rfl, rfl⟩
  simp [record]

theorem consults_ask (console : Console σ) (call : Call) :
    Consults console [{ call, answer := ((ask call).run console).1 }]
      ((ask call).run console).2 := by
  let answered := Device.answer console.device call
  let changed : Console σ := { console with device := answered.device }
  have later : Consults changed []
      (if answered.requestsShutdown then changed.requestShutdown else changed) := by
    split
    · exact timely_consults.requestShutdown changed
    · exact .refl changed
  obtain ⟨events, journal, silent⟩ := later.journal
  rw [run_ask]
  constructor
  · refine ⟨events ++ [.called call answered.answer], ?_, ?_⟩
    · simp only [record, Array.toList_push, journal, changed, List.append_assoc, answered]
    · rw [List.filterMap_append, silent]
      rfl
  · rfl
  · exact later.device
  · exact later.display

theorem asks_ask (console : Console σ) (call : Call) :
    Asks console [call] ((ask call).run console).2 :=
  (consults_ask console call).asks

theorem tracing_asks :
    Tracing fun (before : Console σ) calls after => Asks before calls after := by
  constructor
  · exact timely_asks
  · intro first middle last earlier later left right
    exact left.trans right
  · intro console pointer
    exact asks_of_same rfl rfl
  · intro console note
    exact asks_record rfl console

/-- An act asks only what it may ask. -/
theorem Composed.asks {α : Type} {asked : Call → Prop} {act : Act σ α}
    (composed : Composed asked act) (console : Console σ) :
    ∃ calls, Asks console calls (act.run console).2 ∧ ∀ call ∈ calls, asked call := by
  apply composed.traced tracing_asks
  intro console call isAsked
  refine ⟨[call], asks_ask console call, ?_⟩
  intro other member
  rw [List.mem_singleton.mp member]
  exact isAsked

end Console

end RemoteInput
