import RemoteInput.Proofs.Console.Stamps
import RemoteInput.Proofs.Session.Course

/-!
# The time stamps of a session

The touch events that a device accepts in a session come from many gestures, one
request line each.  `deliveries` lists them with the number of their line.  A
gesture is stamped from the clock at which its line is served, and the clock has
passed all stamps when the next line is taken; a gesture that leaves a stamp
ahead of the clock was cut short, and no line is taken after it.  So the stamps
never run backwards, whatever the lines are and whatever fails: `run_in_order`.
-/

namespace RemoteInput

/-- A touch event that a device accepted, and the number of its request line. -/
structure Delivery where
  line : Nat
  touch : TouchEvent

/-- The touch event that an event tells of, if it was accepted. -/
def Event.touch? (event : Event) : Option TouchEvent :=
  event.injected?.bind Injected.touch?

/-- The touch events that were accepted, if a number of lines was received
before. -/
def deliveries (count : Nat) : List Event → List Delivery
  | [] => []
  | .received _ :: rest => deliveries (count + 1) rest
  | event :: rest =>
      match event.touch? with
      | some touch => { line := count, touch } :: deliveries count rest
      | none => deliveries count rest

private theorem deliveries_cons (count : Nat) {event : Event}
    (unreceived : event.received? = none) (rest : List Event) :
    deliveries count (event :: rest) =
      event.touch?.toList.map (Delivery.mk count) ++ deliveries count rest := by
  have found : deliveries count (event :: rest) =
      match event.touch? with
      | some touch => { line := count, touch } :: deliveries count rest
      | none => deliveries count rest := by
    cases event with
    | received line => cases unreceived
    | called call answer => rfl
    | noted note => rfl
    | sent line => rfl
    | shutdown => rfl
  rw [found]
  cases event.touch? with
  | some touch => rfl
  | none => rfl

theorem deliveries_append (count : Nat) (earlier later : List Event) :
    deliveries count (earlier ++ later) =
      deliveries count earlier ++
        deliveries (count + (receivedLines earlier).length) later := by
  induction earlier generalizing count with
  | nil => rfl
  | cons event rest induction =>
      cases received : event.received? with
      | some line =>
          cases event with
          | received line =>
              have counted : (receivedLines (.received line :: rest)).length =
                  (receivedLines rest).length + 1 := rfl
              rw [List.cons_append, deliveries, deliveries, induction, counted,
                Nat.add_right_comm, Nat.add_assoc]
          | called call answer => cases received
          | noted note => cases received
          | sent line => cases received
          | shutdown => cases received
      | none =>
          have same : receivedLines (event :: rest) = receivedLines rest :=
            List.filterMap_cons_none received
          rw [List.cons_append, deliveries_cons count received, induction,
            deliveries_cons count received, same, List.append_assoc]

/-- Between two request lines all touch events are for the same one. -/
theorem deliveries_of_unreceived (count : Nat) {events : List Event}
    (unreceived : receivedLines events = []) :
    deliveries count events =
      (acceptedTouches (injections events)).map (Delivery.mk count) := by
  have touches : acceptedTouches (injections events) = events.filterMap Event.touch? :=
    List.filterMap_filterMap ..
  rw [touches]
  clear touches
  induction events with
  | nil => rfl
  | cons event rest induction =>
      cases received : event.received? with
      | some line =>
          rw [receivedLines, List.filterMap_cons_some received] at unreceived
          cases unreceived
      | none =>
          rw [receivedLines, List.filterMap_cons_none received] at unreceived
          rw [deliveries_cons count received, induction unreceived, List.filterMap_cons]
          cases event.touch? with
          | some touch => rfl
          | none => rfl

/-- What holds of two touch events that were accepted one after the other. -/
structure Delivery.Precedes (earlier later : Delivery) : Prop where
  eventTime : earlier.touch.eventTime ≤ later.touch.eventTime
  downTime : earlier.touch.downTime ≤ later.touch.downTime
  sameLine : earlier.line = later.line →
    earlier.touch.downTime = later.touch.downTime ∧
      (earlier.touch.action ≠ .up → later.touch.action ≠ .up →
        earlier.touch.eventTime < later.touch.eventTime)

/-- Touch events of lines after a number of lines, stamped from an instant on and
in order. -/
structure Orderly (count start : Nat) (made : List Delivery) : Prop where
  ordered : made.Pairwise Delivery.Precedes
  stamped : ∀ delivery ∈ made, count < delivery.line ∧
    start ≤ delivery.touch.downTime ∧
    delivery.touch.downTime ≤ delivery.touch.eventTime

theorem orderly_of_gesture {start downTime : Nat} {touches : List TouchEvent}
    (gesture : Gesture downTime touches) (inTime : start ≤ downTime) (count : Nat) :
    Orderly count start (touches.map (Delivery.mk (count + 1))) := by
  constructor
  · rw [List.pairwise_map]
    apply gesture.ordered.imp_of_mem
    intro earlier later isEarlier isLater ordered
    have isDown := (gesture.stamped earlier isEarlier).1
    have isToo := (gesture.stamped later isLater).1
    have same := isDown.trans isToo.symm
    exact ⟨ordered.1, Nat.le_of_eq same, fun _ => ⟨same, ordered.2⟩⟩
  · intro delivery member
    obtain ⟨touch, isTouch, rfl⟩ := List.mem_map.mp member
    obtain ⟨isDown, later⟩ := gesture.stamped touch isTouch
    rw [isDown]
    exact ⟨Nat.lt_succ_self count, inTime, later⟩

theorem Orderly.mono {count start earlier : Nat} {made : List Delivery}
    (orderly : Orderly count start made) (isEarlier : earlier ≤ start) :
    Orderly count earlier made := by
  refine ⟨orderly.ordered, ?_⟩
  intro delivery member
  obtain ⟨further, begins, inOrder⟩ := orderly.stamped delivery member
  exact ⟨further, Nat.le_trans isEarlier begins, inOrder⟩

/-- A gesture that is over comes before those of later lines. -/
theorem Orderly.append {count start middle downTime : Nat} {touches : List TouchEvent}
    {made : List Delivery} (gesture : Gesture downTime touches) (inTime : start ≤ downTime)
    (settled : ∀ touch ∈ touches, touch.eventTime ≤ middle)
    (passes : start ≤ middle) (later : Orderly (count + 1) middle made) :
    Orderly count start (touches.map (Delivery.mk (count + 1)) ++ made) := by
  have first := orderly_of_gesture gesture inTime count
  constructor
  · refine List.pairwise_append.mpr ⟨first.ordered, later.ordered, ?_⟩
    intro earlier isEarlier other isOther
    obtain ⟨touch, isTouch, rfl⟩ := List.mem_map.mp isEarlier
    obtain ⟨further, begins, inOrder⟩ := later.stamped other isOther
    -- Whatever is early is stamped by the instant at which whatever is late begins.
    have down := (first.stamped _ isEarlier).2.2
    have passed := settled touch isTouch
    constructor
    · dsimp only
      omega
    · dsimp only at down ⊢
      omega
    · intro sameLine
      dsimp only at sameLine
      omega
  · intro delivery member
    rcases List.mem_append.mp member with early | late
    · exact first.stamped delivery early
    · obtain ⟨further, begins, inOrder⟩ := later.stamped delivery late
      exact ⟨Nat.lt_of_succ_lt further, Nat.le_trans passes begins, inOrder⟩

namespace Console

variable {σ : Type}

/-- A console that comes from another, the touch events that were accepted in
between, and the numbers of lines that were received before and after. -/
structure Elapses (count : Nat) (before : Console σ) (made : List Delivery) (total : Nat)
    (after : Console σ) : Prop where
  clock : before.clock ≤ after.clock
  journal : ∃ events, after.journal.toList = before.journal.toList ++ events ∧
    deliveries count events = made ∧ count + (receivedLines events).length = total

theorem Elapses.trans {count middle total : Nat} {first between last : Console σ}
    {earlier later : List Delivery} (left : Elapses count first earlier middle between)
    (right : Elapses middle between later total last) :
    Elapses count first (earlier ++ later) total last := by
  obtain ⟨events, begins, rfl, rfl⟩ := left.journal
  obtain ⟨more, goesOn, rfl, rfl⟩ := right.journal
  refine ⟨Nat.le_trans left.clock right.clock, events ++ more, ?_, ?_, ?_⟩
  · rw [goesOn, begins, List.append_assoc]
  · exact deliveries_append count events more
  · rw [receivedLines_append, List.length_append, Nat.add_assoc]

theorem Injects.elapses {before after : Console σ} {calls : List Injected}
    (injects : Injects before calls after) (count : Nat) :
    Elapses count before ((acceptedTouches calls).map (Delivery.mk count)) count after := by
  obtain ⟨events, proceeds, unreceived, rfl⟩ := injects.journal
  refine ⟨injects.clock, events, proceeds.journal,
    deliveries_of_unreceived count unreceived, ?_⟩
  rw [unreceived]
  rfl

theorem elapses_received (line : String) (console : Console σ) (count : Nat) :
    Elapses count console [] (count + 1) (console.record (.received line)) := by
  refine ⟨Nat.le_refl _, [.received line], ?_, rfl, rfl⟩
  simp [record]

/-- Between two consoles lies the gesture of one request line at most; and if it
is settled, no stamp is ahead of the clock. -/
def Serves (count : Nat) (before : Console σ) (total : Nat) (after : Console σ)
    (settled : Prop) : Prop :=
  ∃ touches downTime, before.clock ≤ downTime ∧ Gesture downTime touches ∧
    Elapses count before (touches.map (Delivery.mk (count + 1))) total after ∧
    (settled → ∀ touch ∈ touches, touch.eventTime ≤ after.clock)

theorem Elapses.serves {count total : Nat} {before after : Console σ}
    (elapses : Elapses count before [] total after) (settled : Prop) :
    Serves count before total after settled := by
  refine ⟨[], before.clock, Nat.le_refl _, .nil, elapses, ?_⟩
  intro _ touch member
  cases member

/-- A line is received, and its gesture is made. -/
theorem Stamps.serves {count : Nat} {before middle after : Console σ} {settled : Prop}
    (stamps : Stamps middle after settled)
    (received : Elapses count before [] (count + 1) middle) :
    Serves count before (count + 1) after settled := by
  obtain ⟨calls, injects, gesture, inTime⟩ := stamps
  exact ⟨acceptedTouches calls, middle.clock, received.clock, gesture,
    received.trans (injects.elapses (count + 1)), inTime⟩

end Console

namespace Session

variable {σ : Type}

/-- The end of a session makes no gesture. -/
private theorem elapses_finish (id : String) (outcome : SessionOutcome)
    (channel : LineChannel) (console : Console σ) (count : Nat) :
    Console.Elapses count console [] count
      (finish id outcome channel console).2.2 := by
  rw [console_finish]
  exact (injects_concluded id outcome console).elapses count

variable [Device σ]

/-- What a turn does with time: if a line was served, its gesture is settled. -/
private def Spends (count : Nat) (before : Console σ) : Turn σ → Prop
  | .served _ later => Console.Serves count before (count + 1) later True
  | .ended _ _ last => ∃ total, Console.Serves count before total last False

private theorem spends_answer {count : Nat} {before console : Console σ} (line : String)
    (channel : LineChannel)
    (received : Console.Elapses count before [] (count + 1) console) :
    Spends count before (answer line channel console) := by
  have stamps := Console.stamps_dispatch line console
  unfold answer
  cases run : (Console.dispatch line).run console with
  | mk answered later =>
      rw [run] at stamps
      cases answered with
      | error interruption =>
          cases interruption
          exact ⟨count + 1, (stamps.mono False.elim).serves received⟩
      | ok reply =>
          have stepped : Console.Stamps console later.takeStep True :=
            (stamps.mono fun _ => nofun).idle (Console.injects_takeStep later)
          have unfinished : Console.Stamps console later.takeStep False :=
            stepped.mono fun _ => trivial
          dsimp only
          split
          · exact ⟨count + 1, unfinished.serves received⟩
          · cases channel.writer.send reply.render with
            | mk sending writer =>
                cases sending with
                | error error => exact ⟨count + 1, unfinished.serves received⟩
                | ok =>
                    have sent : Console.Injects later.takeStep []
                        (later.takeStep.record (.sent reply.render)) :=
                      Console.injects_record (nofun : Event.sent reply.render ≠ .shutdown) rfl _
                    exact (stepped.idle sent).serves received

private theorem spends_turn (count : Nat) (channel : LineChannel) (console : Console σ) :
    Spends count console (turn channel console) := by
  have caughtUp := Console.injects_catchUp console
  have idle : ∀ {last : Console σ}, Console.Injects console [] last →
      ∃ total, Console.Serves count console total last False := by
    intro last injects
    exact ⟨count, (injects.elapses count).serves False⟩
  unfold turn
  dsimp only
  split
  · exact idle caughtUp
  · have later := LineReader.clock_le_receive console.catchUp.deadline channel.reader
      console.catchUp.toMoment
    cases received : channel.reader.receive console.catchUp.deadline
        console.catchUp.toMoment with
    | mk receipt read =>
        obtain ⟨reader, moment⟩ := read
        rw [received] at later
        have moved := caughtUp.trans (Console.injects_move console.catchUp later)
        cases receipt with
        | line line =>
            apply spends_answer
            exact (moved.elapses count).trans (Console.elapses_received line _ count)
        | endOfStream => exact idle moved
        | failed error => exact idle moved
        | overdue => exact idle (moved.trans (Console.injects_expire _))
        | silent => exact idle moved

/-- The touch events of all the lines that are still served are in order. -/
private theorem orderly_serve (count : Nat) (channel : LineChannel) (console : Console σ) :
    ∃ made total, Console.Elapses count console made total (serve channel console).2.2 ∧
      Orderly count console.clock made := by
  fun_induction serve channel console generalizing count with
  | case1 channel console outcome final last turned =>
      have spends := spends_turn count channel console
      rw [turned] at spends
      obtain ⟨total, touches, downTime, inTime, gesture, elapses, _⟩ := spends
      exact ⟨_, total, elapses, orderly_of_gesture gesture inTime count⟩
  | case2 channel console middle later turned induction =>
      have spends := spends_turn count channel console
      rw [turned] at spends
      obtain ⟨touches, downTime, inTime, gesture, elapses, settled⟩ := spends
      obtain ⟨made, total, goesOn, others⟩ := induction (count + 1)
      exact ⟨_, total, elapses.trans goesOn,
        .append gesture inTime (settled trivial) elapses.clock others⟩

/-- The start of a session makes no gesture. -/
private theorem elapses_begin (id : String) (powerOn : Bool) (console : Console σ) :
    Console.Elapses 0 console [] 0 (begin id powerOn console).2 := by
  obtain ⟨calls, injects, areWaking⟩ := injects_begin id powerOn console
  have quiet : acceptedTouches calls = [] := by
    apply acceptedTouches_of_keys
    intro call member touch isTouch
    have isWaking := areWaking call member
    rw [isTouch] at isWaking
    cases isWaking with
    | key isKey => cases isKey
  have elapses := injects.elapses 0
  rw [quiet] at elapses
  exact elapses

/-- The touch events that a device accepts in a session never run backwards:
neither their own stamps nor those of when the finger came down.  Those of one
request line share the latter, and their own stamps rise until the finger comes
up. -/
theorem run_in_order (id : String) (powerOn : Bool) (channel : LineChannel)
    (console : Console σ) :
    ∃ events, (run id powerOn channel console).2.2.journal.toList =
        console.journal.toList ++ events ∧
      (∀ delivery ∈ deliveries 0 events,
        delivery.touch.downTime ≤ delivery.touch.eventTime) ∧
      (deliveries 0 events).Pairwise fun earlier later =>
        earlier.touch.eventTime ≤ later.touch.eventTime ∧
          earlier.touch.downTime ≤ later.touch.downTime ∧
          (earlier.line = later.line →
            earlier.touch.downTime = later.touch.downTime ∧
              (earlier.touch.action ≠ .up → later.touch.action ≠ .up →
                earlier.touch.eventTime < later.touch.eventTime)) := by
  have begins := elapses_begin id powerOn console
  suffices served : ∃ made total,
      Console.Elapses 0 console made total (run id powerOn channel console).2.2 ∧
        Orderly 0 console.clock made by
    obtain ⟨made, total, elapses, orderly⟩ := served
    obtain ⟨events, journal, rfl, _⟩ := elapses.journal
    refine ⟨events, journal, fun delivery member => (orderly.stamped delivery member).2.2, ?_⟩
    apply orderly.ordered.imp
    intro earlier later precedes
    exact ⟨precedes.eventTime, precedes.downTime, precedes.sameLine⟩
  unfold run
  cases begun : begin id powerOn console with
  | mk awake opened =>
      rw [begun] at begins
      cases awake with
      | false =>
          refine ⟨[], 0, begins.trans (elapses_finish _ _ _ _ 0), .nil, ?_⟩
          intro delivery member
          cases member
      | true =>
          obtain ⟨made, total, elapses, orderly⟩ := orderly_serve 0 channel opened
          refine ⟨_, total, (begins.trans elapses).trans (elapses_finish _ _ _ _ total), ?_⟩
          rw [List.append_nil, List.nil_append]
          exact orderly.mono begins.clock

end Session

end RemoteInput
