import RemoteInput.Proofs.Console.Progress

/-!
# What acts inject

`injections` lists the injections that some events ask for, with the answers of
the device.  `Injects` relates a console to one that comes later and lists the
injections in between; the clock has not run backwards, and no request line was
received.  The passing of time injects nothing, and an act injects nothing but
what it may ask: `Composed.injects`.
-/

namespace RemoteInput

/-- An injection, and the answer of the device to it. -/
structure Injected where
  event : Injection
  display : DisplayId
  answer : Except DeviceError Unit

/-- The injection that an event asks for, if it asks for one. -/
def Event.injected? : Event → Option Injected
  | .called (.inject event display) answer => some { event, display, answer }
  | _ => none

/-- The injections that some events ask for, in order. -/
def injections (events : List Event) : List Injected :=
  events.filterMap Event.injected?

theorem injections_append (earlier later : List Event) :
    injections (earlier ++ later) = injections earlier ++ injections later :=
  List.filterMap_append

/-- A call that is no injection leaves none in the journal. -/
theorem Event.injected?_called {call : Call} {answer : call.Answer} {injected : Injected}
    (found : (Event.called call answer).injected? = some injected) :
    call = .inject injected.event injected.display := by
  cases call with
  | inject event display =>
      cases found
      rfl
  | _ => cases found

namespace Console

variable {σ : Type}

/-- A console that comes from another without receiving a line, and the
injections in between. -/
structure Injects (before : Console σ) (calls : List Injected)
    (after : Console σ) : Prop where
  clock : before.clock ≤ after.clock
  journal : ∃ events, Proceeds before events after ∧ receivedLines events = [] ∧
    injections events = calls
  display : after.display = before.display
  acceptsInput : after.acceptsInput = before.acceptsInput
  oversleep : after.oversleep = before.oversleep

theorem Injects.refl (console : Console σ) : Injects console [] console :=
  ⟨Nat.le_refl _, ⟨[], proceeds_of_same rfl rfl id, rfl, rfl⟩, rfl, rfl, rfl⟩

theorem Injects.trans {first middle last : Console σ} {earlier later : List Injected}
    (left : Injects first earlier middle) (right : Injects middle later last) :
    Injects first (earlier ++ later) last := by
  obtain ⟨events, begins, unreceived, rfl⟩ := left.journal
  obtain ⟨more, goesOn, quiet, rfl⟩ := right.journal
  refine ⟨Nat.le_trans left.clock right.clock,
    ⟨events ++ more, begins.trans goesOn, ?_, injections_append events more⟩,
    right.display.trans left.display, right.acceptsInput.trans left.acceptsInput,
    right.oversleep.trans left.oversleep⟩
  rw [receivedLines_append, unreceived, quiet]
  rfl

/-- What injects nothing goes unnoticed after what injects. -/
theorem Injects.idle {first middle last : Console σ} {calls : List Injected}
    (left : Injects first calls middle) (right : Injects middle [] last) :
    Injects first calls last := by
  have both := left.trans right
  rwa [List.append_nil] at both

theorem Injects.works {before after : Console σ} {calls : List Injected}
    (injects : Injects before calls after) : Works before after := by
  obtain ⟨events, proceeds, unreceived, _⟩ := injects.journal
  exact ⟨events, proceeds, unreceived⟩

theorem injects_move (console : Console σ) {moment : Moment}
    (later : console.clock ≤ moment.clock) :
    Injects console [] { console with toMoment := moment } :=
  ⟨later, ⟨[], proceeds_move console moment, rfl, rfl⟩, rfl, rfl, rfl⟩

theorem injects_record {event : Event} (notShutdown : event ≠ .shutdown)
    (unreceived : event.received? = none) (console : Console σ) :
    Injects console event.injected?.toList (console.record event) := by
  refine ⟨Nat.le_refl _, ⟨[event], ?_, ?_, ?_⟩, rfl, rfl, rfl⟩
  · exact proceeds_record notShutdown fun _ => unreceived
  · simp [receivedLines, unreceived]
  · cases found : event.injected? <;> simp [injections, found]

theorem injects_noted (note : Note) (console : Console σ) :
    Injects console [] (console.record (.noted note)) :=
  injects_record (nofun : Event.noted note ≠ .shutdown) rfl console

theorem injects_note (severity : Severity) (message : String)
    (fields : List (String × NoteValue)) (console : Console σ) :
    Injects console [] ((note severity message fields).run console).2 :=
  injects_noted { severity, message, fields } console

/-! ## Time -/

theorem timely_injects : Timely fun before after : Console σ => Injects before [] after := by
  constructor
  · exact .refl
  · intro first middle last left right
    exact left.trans right
  · intro console moment later
    exact injects_move console later
  · intro console unrequested
    refine ⟨Nat.le_refl _, ⟨[.shutdown], ?_, rfl, rfl⟩, rfl, rfl, rfl⟩
    constructor
    · simp [record]
    · rfl
    · exact id
    · simp [record]
    · exact List.pairwise_singleton _ _
    · simp [unrequested]
  · intro console ended
    refine ⟨Nat.le_refl _, ⟨[], proceeds_of_same rfl rfl ?_, rfl, rfl⟩, rfl, rfl, rfl⟩
    intro unwatched
    simp [unwatched, Moment.reaches] at ended

theorem tracing_injects :
    Tracing fun (before : Console σ) calls after => Injects before calls after := by
  constructor
  · exact timely_injects
  · intro first middle last earlier later left right
    exact left.trans right
  · intro console pointer
    exact ⟨Nat.le_refl _, ⟨[], proceeds_of_same rfl rfl id, rfl, rfl⟩, rfl, rfl, rfl⟩
  · intro console note
    exact injects_noted note console

theorem injects_requestShutdown (console : Console σ) :
    Injects console [] console.requestShutdown :=
  timely_injects.requestShutdown console

theorem injects_expire (console : Console σ) : Injects console [] console.expire :=
  timely_injects.expire console

theorem injects_catchUp (console : Console σ) : Injects console [] console.catchUp :=
  timely_injects.catchUp console

theorem injects_takeStep (console : Console σ) : Injects console [] console.takeStep :=
  timely_injects.takeStep console

theorem injects_slept (console : Console σ) (duration : Nat) :
    Injects console [] (console.slept duration).2 :=
  timely_injects.slept console duration

/-! ## Request lines that are served -/

theorem works_expire (console : Console σ) : Works console console.expire :=
  (injects_expire console).works

theorem works_catchUp (console : Console σ) : Works console console.catchUp :=
  (injects_catchUp console).works

theorem works_takeStep (console : Console σ) : Works console console.takeStep :=
  (injects_takeStep console).works

theorem takeStep_of_unrequested {console : Console σ} (unwatched : console.watch = {})
    (unrequested : console.takeStep.shutdown.requested = false) :
    ∃ moment, console.takeStep = { console with toMoment := moment } := by
  have endless := (works_catchUp console).unwatched unwatched
  have goesOn : ¬ console.catchUp.isStopped = true := by
    rw [isStopped_iff endless]
    simpa [takeStep] using unrequested
  obtain ⟨moment, caughtUp, _⟩ := catchUp_of_not_stopped goesOn
  exact ⟨moment.step, by rw [takeStep, caughtUp]⟩

/-! ## Acts -/

variable [Device σ]

theorem injects_ask (console : Console σ) (call : Call) :
    Injects console
      (Event.called call (Device.answer console.device call).answer).injected?.toList
      ((ask call).run console).2 := by
  rw [run_ask]
  generalize Device.answer console.device call = answered
  have replaced : Injects console [] { console with device := answered.device } :=
    ⟨Nat.le_refl _, ⟨[], proceeds_of_same rfl rfl id, rfl, rfl⟩, rfl, rfl, rfl⟩
  have requested :=
    injects_requestShutdown { console with device := answered.device }
  have recorded : ∀ later : Console σ, later.clock = console.clock →
      Injects later (Event.called call answered.answer).injected?.toList
        ({ later with clock := console.clock + answered.elapsed }.record
          (.called call answered.answer)) := by
    intro later same
    apply (injects_move later _).trans
    · exact injects_record (by simp) rfl _
    · rw [same]
      exact Nat.le_add_right _ _
  split
  · apply (replaced.trans requested).trans
    apply recorded
    unfold requestShutdown
    split <;> rfl
  · exact replaced.trans (recorded _ rfl)

/-- An act only adds to the journal, receives no request line, and injects only
what it may ask. -/
theorem Composed.injects {α : Type} {asked : Call → Prop} {act : Act σ α}
    (composed : Composed asked act) (console : Console σ) :
    ∃ calls, Injects console calls (act.run console).2 ∧
      ∀ call ∈ calls, asked (.inject call.event call.display) := by
  apply composed.traced tracing_injects
  intro console call isAsked
  refine ⟨_, injects_ask console call, ?_⟩
  intro injected member
  rw [← Event.injected?_called (Option.mem_toList.mp member)]
  exact isAsked

theorem Composed.works {α : Type} {asked : Call → Prop} {act : Act σ α}
    (composed : Composed asked act) (console : Console σ) :
    Works console (act.run console).2 := by
  obtain ⟨calls, injects, _⟩ := composed.injects console
  exact injects.works

end Console

end RemoteInput
