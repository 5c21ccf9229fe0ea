import RemoteInput.Proofs.Console.Waking
import RemoteInput.Proofs.Session.Cancellation

/-!
# How a session starts

Before it takes a request line, a session may wake the display.  If the power key was
pressed, it waits for the display, and no line is taken up before that wait is over;
otherwise it takes up lines at once.  `Lasting` carries what holds of one turn to all of
them: so the clock does not run backwards while lines are served, and nothing is asked
but what a line asks for that was received before, `Owed`.
-/

namespace RemoteInput

/-! ## Calls that request lines ask for -/

/-- No request line asks whether a screen is on. -/
theorem Request.not_asks_screenOn (line : String) (display : DisplayId) :
    ¬ Request.asks line (.screenOn display) := by
  unfold Request.asks
  cases Request.ofLine line with
  | error refusal => exact id
  | ok request =>
      obtain ⟨verb, arguments⟩ := request
      cases verb <;> nofun

/-- Every call among some events comes after a request line that may ask it. -/
def Owed (events : List Event) : Prop :=
  ∀ earlier call answer later, events = earlier ++ .called call answer :: later →
    ∃ line ∈ receivedLines earlier, Request.asks line call

theorem owed_of_uncalled {events : List Event} (uncalled : calls events = []) : Owed events := by
  rintro earlier call answer later rfl
  simp [calls, Event.call?] at uncalled

/-- A request line asks for the calls that come after it. -/
theorem owed_received {line : String} {events : List Event}
    (areAsked : ∀ call ∈ calls events, Request.asks line call) :
    Owed (.received line :: events) := by
  intro earlier call answer later whole
  cases earlier with
  | nil => cases whole
  | cons first earlier =>
      rw [List.cons_append, List.cons.injEq] at whole
      obtain ⟨rfl, rfl⟩ := whole
      refine ⟨line, List.mem_cons_self, areAsked call ?_⟩
      rw [calls_append]
      exact List.mem_append_right _ List.mem_cons_self

theorem Owed.append {earlier later : List Event} (left : Owed earlier) (right : Owed later) :
    Owed (earlier ++ later) := by
  intro before call answer after whole
  rcases List.append_eq_append_iff.mp whole with ⟨more, rfl, isLater⟩ | ⟨more, isEarlier, isAfter⟩
  · obtain ⟨line, received, asks⟩ := right more call answer after isLater
    refine ⟨line, ?_, asks⟩
    rw [receivedLines_append]
    exact List.mem_append_right _ received
  · cases more with
    | nil =>
        -- A call that comes first among the later events would be owed to nothing.
        obtain ⟨line, received, _⟩ := right [] call answer after isAfter.symm
        cases received
    | cons first more =>
        rw [List.cons_append, List.cons.injEq] at isAfter
        obtain ⟨rfl, _⟩ := isAfter
        exact left before call answer more isEarlier

/-- A call that is owed asks nothing about a screen. -/
theorem Owed.ne_screenOn {events : List Event} (owed : Owed events) {call : Call}
    (member : call ∈ calls events) (display : DisplayId) : call ≠ .screenOn display := by
  rintro rfl
  obtain ⟨event, isEvent, isCall⟩ := List.mem_filterMap.mp member
  obtain ⟨earlier, later, whole⟩ := List.append_of_mem isEvent
  cases event with
  | called call answer =>
      cases isCall
      obtain ⟨line, _, asks⟩ := owed earlier _ answer later whole
      exact Request.not_asks_screenOn line display asks
  | noted note => cases isCall
  | received line => cases isCall
  | sent line => cases isCall
  | shutdown => cases isCall

namespace Session

variable {σ : Type}

/-- The console that a turn leaves behind. -/
def Turn.console : Turn σ → Console σ
  | .served _ console => console
  | .ended _ _ console => console

/-- Nothing is asked but what some request line asks for. -/
def Owes (before after : Console σ) : Prop :=
  ∃ events, after.journal.toList = before.journal.toList ++ events ∧ Owed events

private theorem owes_of_same {before after : Console σ} (journal : after.journal = before.journal) :
    Owes before after :=
  ⟨[], by rw [journal, List.append_nil], owed_of_uncalled rfl⟩

private theorem owes_record {event : Event} (uncalled : calls [event] = [])
    (console : Console σ) : Owes console (console.record event) :=
  ⟨[event], Array.toList_push, owed_of_uncalled uncalled⟩

private theorem owes_concluded (id : String) (outcome : SessionOutcome) (console : Console σ) :
    Owes console (concluded id outcome console) := by
  refine ⟨endEvents id outcome, journal_concluded id outcome console, owed_of_uncalled ?_⟩
  cases outcome <;> rfl

variable [Device σ]

/-- A relation between consoles that holds of what comes about while a session takes
request lines and serves them. -/
structure Lasting (related : Console σ → Console σ → Prop) : Prop where
  timely : Console.Timely related
  served : ∀ (line : String) (console : Console σ),
    related console ((Console.dispatch line).run (console.record (.received line))).2
  sent : ∀ (line : String) (console : Console σ), related console (console.record (.sent line))

section

variable {related : Console σ → Console σ → Prop} (lasting : Lasting related)

include lasting

private theorem Lasting.answer (line : String) (channel : LineChannel) (console : Console σ) :
    related console (answer line channel (console.record (.received line))).console := by
  have served := lasting.served line console
  unfold Session.answer
  cases run : (Console.dispatch line).run (console.record (.received line)) with
  | mk answered later =>
      rw [run] at served
      cases answered with
      | error interruption =>
          cases interruption
          exact served
      | ok reply =>
          have stepped := lasting.timely.trans served (lasting.timely.takeStep later)
          dsimp only
          split
          · exact stepped
          · cases channel.writer.send reply.render with
            | mk sending writer =>
                cases sending with
                | error error => exact stepped
                | ok => exact lasting.timely.trans stepped (lasting.sent _ _)

theorem Lasting.turn (channel : LineChannel) (console : Console σ) :
    related console (turn channel console).console := by
  have caughtUp := lasting.timely.catchUp console
  unfold Session.turn
  dsimp only
  split
  · exact caughtUp
  · have later := LineReader.clock_le_receive console.catchUp.deadline channel.reader
      console.catchUp.toMoment
    cases received : channel.reader.receive console.catchUp.deadline
        console.catchUp.toMoment with
    | mk receipt read =>
        obtain ⟨reader, moment⟩ := read
        rw [received] at later
        have moved := lasting.timely.trans caughtUp
          (lasting.timely.move console.catchUp moment later)
        cases receipt with
        | line line => exact lasting.timely.trans moved (lasting.answer line _ _)
        | endOfStream => exact moved
        | failed error => exact moved
        | overdue => exact lasting.timely.trans moved (lasting.timely.expire _)
        | silent => exact moved

/-- What holds of one turn after the other holds of all turns. -/
theorem Lasting.serve (channel : LineChannel) (console : Console σ) :
    related console (serve channel console).2.2 := by
  fun_induction Session.serve channel console with
  | case1 channel console outcome final last turned =>
      have turns := lasting.turn channel console
      rwa [turned] at turns
  | case2 channel console middle later turned induction =>
      have turns := lasting.turn channel console
      rw [turned] at turns
      exact lasting.timely.trans turns induction

end

/-! ## While request lines are served -/

/-- The clock does not run backwards. -/
theorem lasting_clock : Lasting fun before after : Console σ => before.clock ≤ after.clock := by
  constructor
  · constructor
    · intro console
      exact Nat.le_refl _
    · intro first middle last left right
      exact Nat.le_trans left right
    · intro console moment later
      exact later
    · intro console _
      exact Nat.le_refl _
    · intro console _
      exact Nat.le_refl _
  · intro line console
    obtain ⟨calls, injects, _⟩ :=
      (Console.composed_dispatch line).injects (console.record (.received line))
    exact injects.clock
  · intro line console
    exact Nat.le_refl _

theorem lasting_owes : Lasting (Owes : Console σ → Console σ → Prop) := by
  constructor
  · constructor
    · intro console
      exact owes_of_same rfl
    · rintro first middle last ⟨events, begins, owed⟩ ⟨more, goesOn, isToo⟩
      refine ⟨events ++ more, ?_, owed.append isToo⟩
      rw [goesOn, begins, List.append_assoc]
    · intro console moment _
      exact owes_of_same rfl
    · intro console _
      exact owes_record rfl { console with shutdown.requested := true }
    · intro console _
      exact owes_of_same rfl
  · intro line console
    obtain ⟨asked, asks, areAsked⟩ :=
      (Console.composed_dispatch line).asks (console.record (.received line))
    obtain ⟨events, journal, isAsked⟩ := asks.journal
    refine ⟨.received line :: events, ?_, owed_received (isAsked ▸ areAsked)⟩
    rw [journal, Console.record, Array.toList_push, List.append_assoc]
    rfl
  · intro line console
    exact owes_record rfl console

private theorem clock_le_arrival? {channel : LineChannel} {console : Console σ}
    {arrival : Arrival} (arrived : arrival? channel console = some arrival) :
    console.clock ≤ arrival.moment.clock := by
  have caughtUp := lasting_clock.timely.catchUp console
  have later := LineReader.clock_le_receive console.catchUp.deadline channel.reader
    console.catchUp.toMoment
  unfold arrival? at arrived
  dsimp only at arrived
  split at arrived
  · cases arrived
  · split at arrived
    · next received =>
      cases arrived
      rw [received] at later
      exact Nat.le_trans caughtUp later
    · cases arrived

/-- Request lines arrive later than the session takes them up. -/
theorem clock_le_arrivals {channel : LineChannel} {console : Console σ} {arrival : Arrival}
    (member : arrival ∈ arrivals channel console) : console.clock ≤ arrival.moment.clock := by
  fun_induction arrivals channel console with
  | case1 channel console outcome final last turned =>
      exact clock_le_arrival? (Option.mem_toList.mp member)
  | case2 channel console middle later turned induction =>
      rcases List.mem_append.mp member with first | other
      · exact clock_le_arrival? (Option.mem_toList.mp first)
      · have turns := lasting_clock.turn channel console
        rw [turned] at turns
        exact Nat.le_trans turns (induction other)

/-! ## Before request lines are served -/

/-- A session wakes the display first, and then it waits if the power key was
pressed. -/
theorem begin_cases (id : String) (powerOn : Bool) (console : Console σ) :
    ∃ asked pressed present, Waking powerOn console.display asked pressed ∧
      console.expire.Attends asked present ∧
      console.Consults asked (begin id powerOn console).2 ∧
      (pressed = false → begin id powerOn console = (true, present)) ∧
      (pressed = true →
        (begin id powerOn console).1 = (present.slept Console.wakeTime).1 ∧
        (begin id powerOn console).2.clock = (present.slept Console.wakeTime).2.clock) := by
  let started := console.expire.record
    (.noted { severity := .info, message := "session " ++ id ++ ": started" })
  have starts : console.expire.Attends [] started := Console.attends_note _ _
  have display : started.display = console.display := by
    rw [starts.display, Console.expire_eq]
  obtain ⟨asked, pressed, present, waking, goesOn, run⟩ := Console.wake_cases powerOn started
  have attends := starts.trans goesOn
  have consults := (Console.timely_consults.expire console).trans attends.toConsults
  rw [display] at waking
  refine ⟨asked, pressed, present, waking, attends, ?_⟩
  unfold begin
  dsimp only
  rw [run]
  cases pressed with
  | false => exact ⟨consults, fun _ => rfl, nofun⟩
  | true =>
      have slept := consults.idle (Console.timely_consults.slept present Console.wakeTime)
      unfold Console.awaited
      cases waited : present.slept Console.wakeTime with
      | mk wholly later =>
          rw [waited] at slept
          cases wholly with
          | true =>
              exact ⟨slept.idle (Console.consults_note _ later), nofun, fun _ => ⟨rfl, rfl⟩⟩
          | false => exact ⟨slept, nofun, fun _ => ⟨rfl, rfl⟩⟩

private theorem run_of_begun {id : String} {powerOn : Bool} {console : Console σ}
    (awake : (begin id powerOn console).1 = true) (channel : LineChannel) :
    let opened := (begin id powerOn console).2
    run id powerOn channel console =
      finish id (serve channel opened).1 (serve channel opened).2.1 (serve channel opened).2.2 := by
  intro opened
  unfold run
  dsimp only
  rw [if_pos awake]

/-- A session that is stopped while the display wakes up serves nothing. -/
private theorem run_of_cut {id : String} {powerOn : Bool} {console : Console σ}
    (unwatched : console.watch = {}) (cut : (begin id powerOn console).1 = false)
    (channel : LineChannel) :
    let opened := (begin id powerOn console).2
    run id powerOn channel console =
      (.clean .cancelled, closed channel (.clean .cancelled),
        concluded id (.clean .cancelled) opened) := by
  intro opened
  have endless := (works_begin id powerOn console).1.unwatched unwatched
  unfold run
  dsimp only
  rw [if_neg (Bool.eq_false_iff.mp cut), stopped_of_unwatched endless,
    finish_of_unwatched endless]

/-- Once it has started, a session asks only what its request lines ask for. -/
theorem owes_run (id : String) (powerOn : Bool) (channel : LineChannel) {console : Console σ}
    (unwatched : console.watch = {}) :
    Owes (begin id powerOn console).2 (run id powerOn channel console).2.2 := by
  cases awake : (begin id powerOn console).1 with
  | true =>
      rw [run_of_begun awake, console_finish]
      exact lasting_owes.timely.trans (lasting_owes.serve channel _) (owes_concluded id _ _)
  | false =>
      rw [run_of_cut unwatched awake]
      exact owes_concluded id _ _

/-- The events of a session, cut where the session has started. -/
theorem events_of_run (id : String) (powerOn : Bool) (channel : LineChannel)
    {console : Console σ} (unwatched : console.watch = {})
    (settled : channel.writer.unsent = []) :
    ∃ opening later,
      (begin id powerOn console).2.journal.toList = console.journal.toList ++ opening ∧
      (run id powerOn channel console).2.2.journal.toList =
        console.journal.toList ++ opening ++ later ∧
      receivedLines opening = [] ∧
      receivedLines later = (requests id powerOn channel console).map Arrival.line ∧
      Owed later := by
  obtain ⟨opening, opens, unreceived⟩ := (works_begin id powerOn console).1
  obtain ⟨later, goesOn, owed⟩ := owes_run id powerOn channel unwatched
  obtain ⟨events, proceeds, received⟩ := receives_of_run id powerOn channel unwatched settled
  rw [opens.journal] at goesOn
  have whole := proceeds.journal.symm.trans goesOn
  rw [List.append_assoc, List.append_cancel_left_eq] at whole
  rw [whole, receivedLines_append, unreceived] at received
  exact ⟨opening, later, opens.journal, goesOn, unreceived, received, owed⟩

/-- When a session has asked the device, nobody has waited yet; and the wait for the
display is cut short if shutdown is requested by then or becomes due before its end. -/
private theorem slept_of_attends {console present : Console σ} {asked : List Asked}
    (unwatched : console.watch = {}) (attends : console.expire.Attends asked present) :
    let calls := asked.map Asked.call
    let now := console.clock + Device.elapsed console.device calls
    let awake := now + (500 + console.oversleep now)
    present.clock = now ∧
      ((present.slept 500).1 = false ↔
        (console.expire.attended calls).shutdown.requested = true ∨
          console.shutdown.due.any (· < awake) = true) ∧
      ((present.slept 500).1 = true → (present.slept 500).2.clock = awake) := by
  intro calls now awake
  have endless := (Console.works_expire console).unwatched unwatched
  have isPresent := attends.attended
  have isExpired := console.expire_eq
  have clock : present.clock = now := by
    rw [isPresent, Console.attended, isExpired]
  have oversleep : present.oversleep = console.oversleep := by
    rw [isPresent, Console.attended, isExpired]
  have due : present.shutdown.due = console.shutdown.due := by
    rw [isPresent, Console.attended, isExpired]
  have requested : present.shutdown.requested =
      (console.expire.attended calls).shutdown.requested := by
    rw [isPresent]
  have watch : present.watch = {} := by
    rw [isPresent, Console.attended]
    exact endless
  refine ⟨clock, ?_, ?_⟩
  · rw [Console.slept_eq_false_iff watch (by decide), requested, due, clock, oversleep]
  · intro wholly
    cases slept : present.slept 500 with
    | mk answered after =>
        rw [slept] at wholly
        subst wholly
        obtain ⟨moment, isAfter, passed⟩ := Console.slept_true slept
        rw [isAfter, passed, clock, oversleep]

/-- A session asks whether the screen is on once at most, and only if it is to wake the
primary display.  It presses the power key once if the screen is off, and at no other
time before it has received a line.  If the device took the press, half a second passes
before a line is taken up; if shutdown is requested by then, the session ends without
one, and has sent nothing.  If not, no time passes but what the answers of the device
take, and lines are taken up. -/
theorem display_is_woken_first (id : String) (powerOn : Bool) (reader : LineReader)
    (sink : Sink) (console : Console σ) (unwatched : console.watch = {}) :
    let channel : LineChannel := { reader, writer := .start sink }
    let lines := requests id powerOn channel console
    let opened := (begin id powerOn console).2
    let served := serve channel opened
    let ended := run id powerOn channel console
    ∃ opening later pressed,
      let asked := calls opening
      let now := console.clock + Device.elapsed console.device asked
      let awake := now + (500 + console.oversleep now)
      let cancelled := (console.expire.attended asked).shutdown.requested = true ∨
        console.shutdown.due.any (· < awake) = true
      (ended.2.2.journal.toList = console.journal.toList ++ opening ++ later ∧
        receivedLines opening = [] ∧ receivedLines later = lines.map Arrival.line) ∧
      (Waking powerOn console.display (opening.filterMap Event.asked?) pressed ∧
        Device.answers console.device asked = opening.filterMap Event.asked? ∧
        Owed later ∧ ∀ call ∈ calls later, ∀ display, call ≠ .screenOn display) ∧
      (pressed = false →
        opened = { console.expire.attended asked with journal := opened.journal } ∧
          opened.clock = now ∧ ended = finish id served.1 served.2.1 served.2.2) ∧
      (pressed = true → ∀ arrival ∈ lines, now + 500 ≤ arrival.moment.clock) ∧
      (pressed = true → cancelled →
        ended.1 = .clean .cancelled ∧ lines = [] ∧ ended.2.1.writer.taken = #[]) ∧
      (pressed = true → ¬ cancelled →
        opened.clock = awake ∧ ended = finish id served.1 served.2.1 served.2.2) := by
  intro channel lines opened served ended
  obtain ⟨asked, pressed, present, waking, attends, consults, idle, waits⟩ :=
    begin_cases id powerOn console
  obtain ⟨opening, later, opens, journal, unreceived, received, owed⟩ :=
    events_of_run id powerOn channel unwatched rfl
  obtain ⟨isAsked, areCalls⟩ := consults.asked_eq opens
  obtain ⟨clock, cut, passed⟩ := slept_of_attends unwatched attends
  refine ⟨opening, later, pressed, ⟨journal, unreceived, received⟩, ?_⟩
  dsimp only
  rw [isAsked, areCalls]
  refine ⟨⟨waking, consults.answers, owed, fun call => owed.ne_screenOn⟩, ?_, ?_, ?_, ?_⟩
  · intro unpressed
    have begun := idle unpressed
    have awake : (begin id powerOn console).1 = true := congrArg Prod.fst begun
    have isPresent : opened = present := congrArg Prod.snd begun
    rw [isPresent]
    exact ⟨attends.attended, clock, run_of_begun awake channel⟩
  · intro isPressed arrival member
    obtain ⟨answered, opens⟩ := waits isPressed
    cases awake : (begin id powerOn console).1 with
    | true =>
        have isArrival : arrival ∈ arrivals channel opened := by
          simpa [lines, requests, awake] using member
        have inTime := clock_le_arrivals isArrival
        have isAwake : opened.clock = _ := opens.trans (passed (answered.symm.trans awake))
        omega
    | false =>
        simp [lines, requests, awake] at member
  · intro isPressed cancelled
    have isCut : (begin id powerOn console).1 = false :=
      (waits isPressed).1.trans (cut.mpr cancelled)
    have run : ended = _ := run_of_cut unwatched isCut channel
    refine ⟨?_, ?_, ?_⟩
    · rw [run]
    · simp [lines, requests, isCut]
    · rw [run]
      exact taken_closed rfl _
  · intro isPressed goesOn
    obtain ⟨answered, opens⟩ := waits isPressed
    have wholly : (present.slept 500).1 = true := by
      rw [← Bool.not_eq_false]
      exact mt cut.mp goesOn
    exact ⟨opens.trans (passed wholly), run_of_begun (answered.trans wholly) channel⟩

theorem display_is_woken_first_of_early_shutdown :
    let reader := LineReader.start 64 [.bytes (LineWriter.wire "PING")]
    let console : Console InMemoryDevice :=
      { Console.start .primary { screenOn := false } { due := some 300 } with
        acceptsInput := false }
    let channel : LineChannel := { reader, writer := .start .perfect }
    let ended := run "a" true channel console
    console.watch = {} ∧ ended.1 = .clean .cancelled ∧ ended.2.1.writer.taken = #[] ∧
      ∃ opening later, ended.2.2.journal.toList = opening ++ later ∧
        receivedLines opening = [] ∧ receivedLines later = [] ∧
        Waking true .primary (opening.filterMap Event.asked?) true := by
  intro reader console channel ended
  obtain ⟨opening, later, pressed, ⟨journal, unreceived, received⟩, ⟨waking, answers, _⟩, _,
    _, cut, _⟩ := display_is_woken_first "a" true reader .perfect console rfl
  rw [calls_eq_map_asked] at answers cut
  generalize found : opening.filterMap Event.asked? = asked at waking answers cut
  have wakes : pressed = true ∧ asked = [.screen false, .power (.ok ())] := by
    cases waking with
    | unasked idle => simp [console, Console.start] at idle
    | on => cases answers
    | refused isEnabled isPrimary error => cases answers
    | pressed => exact ⟨rfl, rfl⟩
  obtain ⟨rfl, rfl⟩ := wakes
  obtain ⟨outcome, lines, taken⟩ := cut rfl (.inr (by decide +kernel))
  rw [lines] at received
  rw [← found] at waking
  exact ⟨rfl, outcome, taken, opening, later, journal, unreceived, received, waking⟩

end Session

end RemoteInput
