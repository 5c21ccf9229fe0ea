import RemoteInput.Proofs.Console.Acts

/-!
# What acts leave behind

Acts only add to the journal, and what they do does not depend on what the
journal held before; plain acts are `Blind` to more of the console.  `Proceeds`
relates a console to one that comes later: it names the events in between and
says how a request for shutdown shows among them.  Once shutdown was requested,
no request line is received any more.  What happens between two request lines is
work: `Works`.
-/

namespace RemoteInput

/-- The request line that an event receives, if it receives one. -/
def Event.received? : Event → Option String
  | .received line => some line
  | _ => none

/-- The request lines that are received, in order. -/
def receivedLines (events : List Event) : List String :=
  events.filterMap Event.received?

theorem receivedLines_append (earlier later : List Event) :
    receivedLines (earlier ++ later) =
      receivedLines earlier ++ receivedLines later :=
  List.filterMap_append

namespace Console

variable {σ : Type}

/-! ## What plain acts do not see -/

/-- The console with earlier events in front of its journal, with another
pointer, and with another word on whether the display takes input. -/
def refit (earlier : Array Event) (pointer : Pointer) (accepts : Bool)
    (console : Console σ) : Console σ :=
  { console with
    journal := earlier ++ console.journal, pointer, acceptsInput := accepts }

/-- A way to go on from a console that does not see the earlier journal, the
pointer, or whether the display takes input, and leaves them as they are. -/
def Blind {α : Type} (run : Console σ → α × Console σ) : Prop :=
  ∀ earlier pointer accepts console,
    run (refit earlier pointer accepts console) =
      ((run console).1, refit earlier pointer accepts (run console).2)

namespace Blind

variable {α : Type} {run : Console σ → α × Console σ} (blind : Blind run)

include blind

private theorem eq_refit (console : Console σ) :
    (run console).2 =
      refit #[] console.pointer console.acceptsInput (run console).2 := by
  have same : refit #[] console.pointer console.acceptsInput console = console := by
    simp [refit]
  have run := blind #[] console.pointer console.acceptsInput console
  rw [same] at run
  exact congrArg Prod.snd run

theorem pointer (console : Console σ) : (run console).2.pointer = console.pointer := by
  rw [blind.eq_refit]
  rfl

theorem acceptsInput (console : Console σ) :
    (run console).2.acceptsInput = console.acceptsInput := by
  rw [blind.eq_refit]
  rfl

theorem following (earlier : Array Event) (console : Console σ) :
    run (following earlier console) =
      ((run console).1, Console.following earlier (run console).2) := by
  have kept : refit earlier console.pointer console.acceptsInput (run console).2 =
      Console.following earlier (run console).2 := by
    rw [← blind.pointer, ← blind.acceptsInput]
    rfl
  rw [← kept]
  exact blind earlier console.pointer console.acceptsInput console

theorem accepts (accepts : Bool) (console : Console σ) :
    run { console with acceptsInput := accepts } =
      ((run console).1, { (run console).2 with acceptsInput := accepts }) := by
  have refitted := blind #[] console.pointer accepts console
  simp only [refit, Array.empty_append] at refitted
  rw [refitted, ← blind.pointer]

theorem pointed (pointer : Pointer) (console : Console σ) :
    run { console with pointer } =
      ((run console).1, { (run console).2 with pointer }) := by
  have refitted := blind #[] pointer console.acceptsInput console
  simp only [refit, Array.empty_append] at refitted
  rw [refitted, ← blind.acceptsInput]

end Blind

section

variable (earlier : Array Event) (pointer : Pointer) (accepts : Bool)
  (console : Console σ)

private theorem refit_record (event : Event) :
    (refit earlier pointer accepts console).record event =
      refit earlier pointer accepts (console.record event) := by
  simp [record, refit]

private theorem refit_requestShutdown :
    (refit earlier pointer accepts console).requestShutdown =
      refit earlier pointer accepts console.requestShutdown := by
  by_cases requested : console.shutdown.requested = true
  · simp [requestShutdown, refit, requested]
  · simp [requestShutdown, refit, record, requested]

private theorem refit_expire :
    (refit earlier pointer accepts console).expire =
      refit earlier pointer accepts console.expire := by
  unfold expire
  by_cases ended : console.reaches console.watch.limit = true
  · simp [refit, ended]
  · by_cases reached : console.reaches console.shutdown.due = true
    · have same := refit_requestShutdown earlier pointer accepts console
      simp only [refit] at same
      simp [refit, ended, reached, same]
    · simp [refit, ended, reached]

private theorem refit_catchUp :
    (refit earlier pointer accepts console).catchUp =
      refit earlier pointer accepts console.catchUp := by
  unfold catchUp
  by_cases spent : console.isSpent = true
  · have same :=
      refit_expire earlier pointer accepts { console with toMoment := console.rest }
    simp only [refit] at same
    simp [refit, spent, same]
  · simp [refit, spent]

end

private theorem blind_slept (duration : Nat) :
    Blind fun console : Console σ => console.slept duration := by
  intro earlier pointer accepts console
  dsimp only
  unfold slept
  rw [refit_catchUp]
  generalize console.catchUp = console
  by_cases isStopped : console.isStopped = true
  · have same : (refit earlier pointer accepts console).isStopped = true := isStopped
    simp [isStopped, same]
  · have same : ¬ (refit earlier pointer accepts console).isStopped = true := isStopped
    simp only [isStopped, same]
    have waited :
        (refit earlier pointer accepts console).wait
            (refit earlier pointer accepts console).deadline
            (duration + (refit earlier pointer accepts console).oversleep
              (refit earlier pointer accepts console).clock) =
          console.wait console.deadline
            (duration + console.oversleep console.clock) := rfl
    rw [waited]
    cases console.wait console.deadline
        (duration + console.oversleep console.clock) with
    | ok moment => rfl
    | error cut =>
        have expired :=
          refit_expire earlier pointer accepts { console with toMoment := cut.2 }
        simp only [refit] at expired
        simp [refit, expired]

private theorem blind_note (severity : Severity) (message : String)
    (fields : List (String × NoteValue)) :
    Blind (note severity message fields : Act σ Unit).run := by
  intro earlier pointer accepts console
  exact Prod.ext rfl (refit_record earlier pointer accepts console _)

/-! ## The passing of time -/

/-- A relation between consoles that holds of what comes about when time passes. -/
structure Timely (related : Console σ → Console σ → Prop) : Prop where
  refl : ∀ console, related console console
  trans : ∀ {first middle last}, related first middle → related middle last →
    related first last
  move : ∀ (console : Console σ) (moment : Moment), console.clock ≤ moment.clock →
    related console { console with toMoment := moment }
  request : ∀ console : Console σ, console.shutdown.requested = false →
    related console ({ console with shutdown.requested := true }.record .shutdown)
  finish : ∀ console : Console σ, console.reaches console.watch.limit = true →
    related console { console with watch.ended := true }

namespace Timely

variable {related : Console σ → Console σ → Prop} (timely : Timely related)

include timely

theorem requestShutdown (console : Console σ) :
    related console console.requestShutdown := by
  unfold Console.requestShutdown
  split
  · exact timely.refl console
  · next unrequested => exact timely.request console (Bool.eq_false_iff.mpr unrequested)

theorem expire (console : Console σ) : related console console.expire := by
  unfold Console.expire
  split
  · next ended => exact timely.finish console ended
  · split
    · exact timely.requestShutdown console
    · exact timely.refl console

theorem catchUp (console : Console σ) : related console console.catchUp := by
  unfold Console.catchUp
  split
  · exact timely.trans (timely.move console console.rest (Nat.le_refl _))
      (timely.expire _)
  · exact timely.refl console

theorem takeStep (console : Console σ) : related console console.takeStep :=
  timely.trans (timely.catchUp console)
    (timely.move console.catchUp console.catchUp.step (Nat.le_refl _))

theorem slept (console : Console σ) (duration : Nat) :
    related console (console.slept duration).2 := by
  apply timely.trans (timely.catchUp console)
  unfold Console.slept
  dsimp only
  split
  · exact timely.refl _
  · split
    · next waited =>
      apply timely.move
      rw [Moment.clock_of_wait_ok waited]
      exact Nat.le_add_right _ _
    · next waited =>
      have later := (Moment.reaches_of_wait_error waited).2
      exact timely.trans (timely.move console.catchUp _ later) (timely.expire _)

end Timely

/-! ## Requests for shutdown -/

/-- The request for shutdown of a later console is that of an earlier one, or
was made by one of the events in between; and no event in between receives a
line after that request. -/
structure Proceeds (before : Console σ) (events : List Event)
    (after : Console σ) : Prop where
  journal : after.journal.toList = before.journal.toList ++ events
  due : after.shutdown.due = before.shutdown.due
  unwatched : before.watch = {} → after.watch = {}
  requested : after.shutdown.requested = true ↔
    before.shutdown.requested = true ∨ .shutdown ∈ events
  prompt : events.Pairwise fun first second =>
    first = .shutdown → second.received? = none
  refuses : before.shutdown.requested = true →
    ∀ event ∈ events, event.received? = none

theorem proceeds_of_same {before after : Console σ}
    (journal : after.journal = before.journal)
    (shutdown : after.shutdown = before.shutdown)
    (unwatched : before.watch = {} → after.watch = {}) :
    Proceeds before [] after := by
  constructor
  · simp [journal]
  · rw [shutdown]
  · exact unwatched
  · simp [shutdown]
  · exact .nil
  · intro _ event
    exact (absurd · List.not_mem_nil)

theorem proceeds_move (console : Console σ) (moment : Moment) :
    Proceeds console [] { console with toMoment := moment } :=
  proceeds_of_same rfl rfl id

theorem Proceeds.trans {first middle last : Console σ} {earlier later : List Event}
    (left : Proceeds first earlier middle) (right : Proceeds middle later last) :
    Proceeds first (earlier ++ later) last := by
  constructor
  · rw [right.journal, left.journal, List.append_assoc]
  · rw [right.due, left.due]
  · intro unwatched
    exact right.unwatched (left.unwatched unwatched)
  · rw [right.requested, left.requested, List.mem_append, or_assoc]
  · refine List.pairwise_append.mpr ⟨left.prompt, right.prompt, ?_⟩
    intro event member other otherMember isShutdown
    subst isShutdown
    exact right.refuses (left.requested.mpr (.inr member)) other otherMember
  · intro requested event member
    rcases List.mem_append.mp member with early | late
    · exact left.refuses requested event early
    · exact right.refuses (left.requested.mpr (.inl requested)) event late

theorem proceeds_record {console : Console σ} {event : Event}
    (notShutdown : event ≠ .shutdown)
    (admits : console.shutdown.requested = true → event.received? = none) :
    Proceeds console [event] (console.record event) := by
  constructor
  · simp [record]
  · rfl
  · exact id
  · simp [record, notShutdown.symm]
  · exact List.pairwise_singleton _ _
  · intro requested other member
    rw [List.mem_singleton.mp member]
    exact admits requested

/-! ## Request lines -/

/-- A console that comes from another and has received some lines meanwhile. -/
def Receives (before : Console σ) (lines : List String) (after : Console σ) : Prop :=
  ∃ events, Proceeds before events after ∧ receivedLines events = lines

/-- A console that comes from another without receiving a line. -/
abbrev Works (before after : Console σ) : Prop :=
  Receives before [] after

theorem works_of_proceeds {before after : Console σ}
    (proceeds : Proceeds before [] after) :
    Works before after :=
  ⟨[], proceeds, rfl⟩

theorem Works.refl (console : Console σ) : Works console console :=
  works_of_proceeds (proceeds_of_same rfl rfl id)

theorem Receives.trans {first middle last : Console σ} {earlier later : List String}
    (left : Receives first earlier middle) (right : Receives middle later last) :
    Receives first (earlier ++ later) last := by
  obtain ⟨events, begins, rfl⟩ := left
  obtain ⟨more, goesOn, rfl⟩ := right
  exact ⟨events ++ more, begins.trans goesOn, receivedLines_append events more⟩

theorem Works.trans {first middle last : Console σ}
    (left : Works first middle) (right : Works middle last) :
    Works first last :=
  Receives.trans left right

theorem Receives.work {first middle last : Console σ} {lines : List String}
    (left : Receives first lines middle) (right : Works middle last) :
    Receives first lines last := by
  have received := left.trans right
  rwa [List.append_nil] at received

theorem Receives.requested {before after : Console σ} {lines : List String}
    (receives : Receives before lines after)
    (requested : before.shutdown.requested = true) :
    after.shutdown.requested = true := by
  obtain ⟨events, proceeds, _⟩ := receives
  exact proceeds.requested.mpr (.inl requested)

/-- A request for shutdown lasts, so there was none before. -/
theorem Receives.unrequested {before after : Console σ} {lines : List String}
    (receives : before.Receives lines after)
    (unrequested : after.shutdown.requested = false) :
    before.shutdown.requested = false := by
  cases requested : before.shutdown.requested with
  | false => rfl
  | true =>
      rw [receives.requested requested] at unrequested
      cases unrequested

theorem Receives.unwatched {before after : Console σ} {lines : List String}
    (receives : Receives before lines after) (unwatched : before.watch = {}) :
    after.watch = {} := by
  obtain ⟨events, proceeds, _⟩ := receives
  exact proceeds.unwatched unwatched

theorem works_move (console : Console σ) (moment : Moment) :
    Works console { console with toMoment := moment } :=
  works_of_proceeds (proceeds_move console moment)

theorem works_record {event : Event} (notShutdown : event ≠ .shutdown)
    (quiet : event.received? = none) (console : Console σ) :
    Works console (console.record event) := by
  refine ⟨[event], proceeds_record notShutdown fun _ => quiet, ?_⟩
  simp [receivedLines, quiet]

/-! ## Consoles that go on -/

theorem isStopped_iff {console : Console σ} (unwatched : console.watch = {}) :
    console.isStopped = true ↔ console.shutdown.requested = true := by
  simp [isStopped, unwatched]

theorem requested_requestShutdown (console : Console σ) :
    console.requestShutdown.shutdown.requested = true := by
  unfold requestShutdown
  by_cases requested : console.shutdown.requested = true
  · rw [if_pos requested]
    exact requested
  · rw [if_neg requested]
    rfl

/-- What has become due stops a console, or nothing has become due. -/
theorem expire_of_not_stopped {console : Console σ}
    (goesOn : ¬ console.expire.isStopped = true) :
    console.expire = console := by
  unfold expire at goesOn ⊢
  by_cases ended : console.reaches console.watch.limit = true
  · simp [ended, isStopped] at goesOn
  · rw [if_neg ended] at goesOn ⊢
    by_cases due : console.reaches console.shutdown.due = true
    · simp [due, isStopped, requested_requestShutdown] at goesOn
    · rw [if_neg due]

theorem catchUp_of_not_stopped {console : Console σ}
    (goesOn : ¬ console.catchUp.isStopped = true) :
    ∃ moment, console.catchUp = { console with toMoment := moment } ∧
      moment.clock = console.clock := by
  unfold catchUp at goesOn ⊢
  by_cases spent : console.isSpent = true
  · rw [if_pos spent] at goesOn ⊢
    exact ⟨console.rest, expire_of_not_stopped goesOn, rfl⟩
  · rw [if_neg spent]
    exact ⟨console.toMoment, rfl, rfl⟩

/-! ## Acts -/

variable [Device σ]

theorem run_ask (call : Call) (console : Console σ) :
    (ask call).run console =
      ((Device.answer console.device call).answer,
        { (if (Device.answer console.device call).requestsShutdown then
              { console with
                device := (Device.answer console.device call).device }.requestShutdown
            else
              { console with
                device := (Device.answer console.device call).device }) with
          clock := console.clock + (Device.answer console.device call).elapsed }.record
          (.called call (Device.answer console.device call).answer)) := by
  rfl

theorem run_begin (console : Console σ) :
    let asked := (ask (.inputCapable console.display)).run console
    let opened : Console σ := { asked.2 with acceptsInput := asked.1 }
    begin.run console =
      ((), if asked.1 then opened
        else opened.record (.noted (inputUnsupported opened.display))) := by
  intro asked opened
  have run : begin.run console =
      (if !asked.1 then
        modify fun console => console.record (.noted (inputUnsupported console.display))
      else
        pure () : Act σ Unit).run opened := by
    rfl
  rw [run]
  cases asked.1 <;> rfl

private theorem blind_ask (call : Call) :
    Blind (ask call : Act σ call.Answer).run := by
  intro earlier pointer accepts console
  rw [run_ask, run_ask]
  by_cases requests :
      (Device.answer console.device call).requestsShutdown = true
  · have requested := refit_requestShutdown earlier pointer accepts
      { console with device := (Device.answer console.device call).device }
    simp only [refit] at requested
    simp [refit, record, requests, requested]
  · simp [refit, record, requests]

/-- Plain acts do not see the pointer, nor whether the display takes input. -/
theorem Plain.blind {α : Type} {asked : Call → Prop} {act : Act σ α}
    (plain : Plain asked act) : Blind act.run := by
  intro earlier pointer accepts console
  induction plain generalizing console with
  | pure value => rfl
  | @bind α β act next _ _ first later =>
      simp only [StateT.run_bind]
      rw [first]
      exact later _ _
  | display => rfl
  | @ask call => exact blind_ask call earlier pointer accepts console
  | sleep duration => exact blind_slept duration earlier pointer accepts console
  | note severity message fields =>
      exact blind_note severity message fields earlier pointer accepts console

/-- What an act does does not depend on what the journal held before. -/
theorem Composed.run_following {α : Type} {asked : Call → Prop} {act : Act σ α}
    (composed : Composed asked act) (earlier : Array Event) (console : Console σ) :
    act.run (following earlier console) =
      ((act.run console).1, following earlier (act.run console).2) := by
  induction composed generalizing console with
  | pure value => rfl
  | @bind α β act next _ _ first later =>
      simp only [StateT.run_bind]
      rw [first]
      exact later _ _
  | @look β part blind =>
      exact Prod.ext (blind earlier console) rfl
  | aim steady => rfl
  | @ask call => exact (blind_ask call).following earlier console
  | sleep duration => exact (blind_slept duration).following earlier console
  | note severity message fields =>
      exact (blind_note severity message fields).following earlier console

/-- A relation between consoles that lists something of what happened in
between, and nothing of what is no call. -/
structure Tracing {β : Type} (related : Console σ → List β → Console σ → Prop) :
    Prop where
  timely : Timely fun before after => related before [] after
  trans : ∀ {first middle last earlier later}, related first earlier middle →
    related middle later last → related first (earlier ++ later) last
  aim : ∀ (console : Console σ) pointer, related console [] { console with pointer }
  note : ∀ (console : Console σ) note, related console [] (console.record (.noted note))

/-- What is listed of an act is listed of its calls. -/
theorem Composed.traced {α β : Type} {related : Console σ → List β → Console σ → Prop}
    (tracing : Tracing related) {asked : Call → Prop} {good : β → Prop}
    (asks : ∀ console call, asked call →
      ∃ found, related console found ((Console.ask call).run console).2 ∧
        ∀ one ∈ found, good one)
    {act : Act σ α} (composed : Composed asked act) (console : Console σ) :
    ∃ found, related console found (act.run console).2 ∧ ∀ one ∈ found, good one := by
  have nothing : ∀ one ∈ [], good one := by simp
  induction composed generalizing console with
  | pure value => exact ⟨[], tracing.timely.refl console, nothing⟩
  | @bind α β act next _ _ first later =>
      obtain ⟨found, begins, areGood⟩ := first console
      obtain ⟨more, goesOn, areToo⟩ := later (act.run console).1 (act.run console).2
      refine ⟨found ++ more, tracing.trans begins goesOn, ?_⟩
      intro one member
      rcases List.mem_append.mp member with early | late
      · exact areGood one early
      · exact areToo one late
  | look blind => exact ⟨[], tracing.timely.refl console, nothing⟩
  | aim steady => exact ⟨[], tracing.aim console _, nothing⟩
  | @ask call isAsked => exact asks console call isAsked
  | sleep duration => exact ⟨[], tracing.timely.slept console duration, nothing⟩
  | note severity message fields => exact ⟨[], tracing.note console _, nothing⟩

end Console

end RemoteInput
