import RemoteInput.Device.InMemory
import RemoteInput.Proofs.Console.Calls
import RemoteInput.Proofs.Console.Commands

/-!
# The ledger of a device in memory

Injections of all kinds are counted together, and the first of them succeed.  `Enters` says
what a run of calls comes to in the ledger; one call after another adds up.  The clipboard
and the ledger are two parts of the device that do not know of each other, and a device
that keeps no events answers as one that does.
-/

namespace RemoteInput

/-! ## Calls that may be left out -/

namespace Device

variable {σ : Type} [Device σ]

theorem call_answers (device : σ) (calls : List Call) :
    (answers device calls).map Asked.call = calls := by
  induction calls generalizing device with
  | nil => rfl
  | cons call calls induction => simp [answers, induction]

/-- Devices with the same part answer the calls that matter alike and keep the same part;
the other calls leave it as it is. -/
structure Unwinds (same : σ → σ → Prop) (matters : Call → Prop) : Prop where
  answer : ∀ {one other call}, same one other → matters call →
    (Device.answer one call).answer = (Device.answer other call).answer
  step : ∀ {one other call}, same one other → matters call →
    same (Device.answer one call).device (Device.answer other call).device
  skip : ∀ {one other call}, same one other → ¬ matters call →
    same (Device.answer one call).device other

/-- The answers to the calls that matter are the same without the other calls. -/
theorem Unwinds.answers_filter {same : σ → σ → Prop} {matters : Call → Prop}
    [DecidablePred matters] (unwinds : Unwinds same matters) {one other : σ}
    (alike : same one other) (calls : List Call) :
    (answers one calls).filter (fun asked => matters asked.call) =
        answers other (calls.filter matters) ∧
      same (answerAll one calls) (answerAll other (calls.filter matters)) := by
  induction calls generalizing one other with
  | nil => exact ⟨rfl, alike⟩
  | cons call calls induction =>
      by_cases isKept : matters call
      · obtain ⟨answered, later⟩ := induction (unwinds.step alike isKept)
        have answer := unwinds.answer alike isKept
        constructor
        · simp [answers, isKept, answered, answer]
        · simpa [isKept, answerAll] using later
      · obtain ⟨answered, later⟩ := induction (unwinds.skip alike isKept)
        constructor
        · simpa [answers, isKept] using answered
        · simpa [isKept, answerAll] using later

end Device

/-! ## Injections -/

/-- The injection that a call asks for. -/
def Call.injection? : Call → Option Injection
  | .inject event _ => some event
  | _ => none

/-- The injection that was asked for, with the answer to it. -/
def Asked.injected? : Asked → Option Injected
  | ⟨.inject event display, answer⟩ => some { event, display, answer }
  | _ => none

theorem Asked.event_injected? (asked : Asked) :
    asked.injected?.map Injected.event = asked.call.injection? := by
  obtain ⟨call, answer⟩ := asked
  cases call <;> rfl

/-- The events that the device accepted, in order. -/
def acceptedEvents (injected : List Injected) : List Injection :=
  (injected.filter Injected.accepted).map Injected.event

@[simp]
theorem acceptedEvents_ok (event : Injection) (display : DisplayId) :
    acceptedEvents [{ event, display, answer := .ok () }] = [event] :=
  rfl

@[simp]
theorem acceptedEvents_error (event : Injection) (display : DisplayId) (error : DeviceError) :
    acceptedEvents [{ event, display, answer := .error error }] = [] :=
  rfl

theorem acceptedEvents_append (earlier later : List Injected) :
    acceptedEvents (earlier ++ later) = acceptedEvents earlier ++ acceptedEvents later := by
  simp [acceptedEvents]

theorem Device.event_answers {σ : Type} [Device σ] (device : σ) (calls : List Call) :
    ((answers device calls).filterMap Asked.injected?).map Injected.event =
      calls.filterMap Call.injection? := by
  have events : (fun asked : Asked => asked.injected?.map Injected.event) =
      fun asked => asked.call.injection? := by
    funext asked
    exact asked.event_injected?
  calc ((answers device calls).filterMap Asked.injected?).map Injected.event
      = (answers device calls).filterMap fun asked => asked.injected?.map Injected.event := by
        rw [List.map_filterMap]
    _ = ((answers device calls).map Asked.call).filterMap Call.injection? := by
        rw [events, List.filterMap_map]
        rfl
    _ = calls.filterMap Call.injection? := by rw [call_answers]

instance : DecidablePred Call.IsClipboard
  | .clipboard => isTrue .clipboard
  | .setClipboard text => isTrue (.setClipboard text)
  | .inputCapable _ | .screenOn _ | .inject _ _ | .keysFor _ => isFalse nofun

/-! ## Ledgers -/

/-- Injected events, listed by their kinds. -/
@[ext]
structure Ledger where
  presses : List KeyCode
  keys : List KeyEvent
  touches : List TouchEvent

namespace Ledger

/-- The ledger of some events, each kind in the order of the events. -/
def ofEvents (events : List Injection) : Ledger where
  presses := events.filterMap fun
    | .press code => some code
    | .key _ | .touch _ => none
  keys := events.filterMap fun
    | .key event => some event
    | .press _ | .touch _ => none
  touches := events.filterMap fun
    | .touch event => some event
    | .press _ | .key _ => none

def append (earlier later : Ledger) : Ledger where
  presses := earlier.presses ++ later.presses
  keys := earlier.keys ++ later.keys
  touches := earlier.touches ++ later.touches

def length (ledger : Ledger) : Nat :=
  ledger.presses.length + ledger.keys.length + ledger.touches.length

@[simp]
theorem append_ofEvents_nil (ledger : Ledger) : ledger.append (ofEvents []) = ledger := by
  simp [append, ofEvents]

theorem append_assoc (first second third : Ledger) :
    (first.append second).append third = first.append (second.append third) := by
  simp [append]

theorem ofEvents_append (earlier later : List Injection) :
    ofEvents (earlier ++ later) = (ofEvents earlier).append (ofEvents later) := by
  simp [append, ofEvents]

/-- Every event is listed, and only once. -/
theorem length_ofEvents (events : List Injection) : (ofEvents events).length = events.length := by
  induction events with
  | nil => rfl
  | cons event events induction =>
      unfold length ofEvents at *
      cases event <;> simp_all <;> omega

end Ledger

namespace InMemoryDevice

def ledger (device : InMemoryDevice) : Ledger where
  presses := device.presses.toList
  keys := device.keys.toList
  touches := device.touches.toList

@[simp]
theorem ledger_count (device : InMemoryDevice) : device.count.ledger = device.ledger :=
  rfl

@[simp]
theorem ledger_enter (device : InMemoryDevice) (event : Injection) :
    (device.enter event).ledger = device.ledger.append (.ofEvents [event]) := by
  cases event <;> simp [enter, ledger, Ledger.append, Ledger.ofEvents]

/-! ## Runs -/

/-- The answer to the injection with a number, counted from zero. -/
def verdict (device : InMemoryDevice) (attempt : Nat) : Except DeviceError Unit :=
  if { device with attempts := attempt }.admits then .ok ()
  else .error (.injection "mock failure")

/-- What some injections leave in the ledger. -/
def entries (device : InMemoryDevice) (injected : List Injected) : Ledger :=
  if device.keepsEvents then .ofEvents (acceptedEvents injected) else .ofEvents []

theorem entries_append (device : InMemoryDevice) (earlier later : List Injected) :
    device.entries (earlier ++ later) =
      (device.entries earlier).append (device.entries later) := by
  cases keeps : device.keepsEvents <;>
    simp [entries, keeps, acceptedEvents_append, Ledger.ofEvents_append]

/-- A device that comes from another by some injections. -/
structure Enters (before : InMemoryDevice) (injected : List Injected)
    (after : InMemoryDevice) : Prop where
  failAfter : after.failAfter = before.failAfter
  keepsEvents : after.keepsEvents = before.keepsEvents
  attempts : after.attempts = before.attempts + injected.length
  answers : injected.map Injected.answer =
    (List.range' before.attempts injected.length).map before.verdict
  ledger : after.ledger = before.ledger.append (before.entries injected)

theorem enters_nil {before after : InMemoryDevice} (failAfter : after.failAfter = before.failAfter)
    (keepsEvents : after.keepsEvents = before.keepsEvents)
    (attempts : after.attempts = before.attempts) (ledger : after.ledger = before.ledger) :
    Enters before [] after := by
  refine ⟨failAfter, keepsEvents, attempts, rfl, ?_⟩
  simp [ledger, entries, acceptedEvents]

theorem Enters.trans {first middle last : InMemoryDevice} {earlier later : List Injected}
    (left : Enters first earlier middle) (right : Enters middle later last) :
    Enters first (earlier ++ later) last := by
  have verdict : middle.verdict = first.verdict := by
    funext attempt
    unfold InMemoryDevice.verdict admits
    rw [left.failAfter]
  have entries : middle.entries later = first.entries later := by
    simp [InMemoryDevice.entries, left.keepsEvents]
  constructor
  · exact right.failAfter.trans left.failAfter
  · exact right.keepsEvents.trans left.keepsEvents
  · simp [right.attempts, left.attempts, Nat.add_assoc]
  · have counted := @List.range'_append_1 first.attempts earlier.length later.length
    rw [List.map_append, left.answers, right.answers, verdict, left.attempts, List.length_append,
      ← counted, List.map_append]
  · rw [right.ledger, left.ledger, entries, entries_append, Ledger.append_assoc]

theorem answer_inject (device : InMemoryDevice) (event : Injection) :
    (device.inject event).1 = device.verdict device.attempts := by
  unfold inject verdict
  split <;> rfl

theorem enters_inject (device : InMemoryDevice) (event : Injection) (display : DisplayId) :
    Enters device [{ event, display, answer := (device.inject event).1 }]
      (device.inject event).2 := by
  have answers : [(device.inject event).1] =
      (List.range' device.attempts 1).map device.verdict := by
    simp [answer_inject]
  unfold inject at answers ⊢
  split
  · next admitted =>
    rw [if_pos admitted] at answers
    split
    · next keeps =>
      refine ⟨?_, ?_, ?_, answers, by simp [entries, keeps]⟩
      all_goals cases event <;> rfl
    · next discards =>
      exact ⟨rfl, rfl, rfl, answers, by simp [entries, discards]⟩
  · next refused =>
    rw [if_neg refused] at answers
    exact ⟨rfl, rfl, rfl, answers, by simp [entries]⟩

/-- What some calls come to in the ledger. -/
theorem enters_answerAll (device : InMemoryDevice) (calls : List Call) :
    Enters device ((Device.answers device calls).filterMap Asked.injected?)
      (Device.answerAll device calls) := by
  induction calls generalizing device with
  | nil => exact enters_nil rfl rfl rfl rfl
  | cons call calls induction =>
      have later := induction (Device.answer device call).device
      cases call with
      | inject event display => exact (enters_inject device event display).trans later
      | setClipboard text =>
          have stored : Enters device [] (device.store text).2 := by
            unfold store
            split
            · exact enters_nil rfl rfl rfl rfl
            · exact enters_nil rfl rfl rfl rfl
          exact stored.trans later
      | _ => exact later

/-! ## The first injections -/

/-- How many of some injections succeed, if they are the first of all. -/
def successes (device : InMemoryDevice) (count : Nat) : Nat :=
  match device.failAfter with
  | some most => min most count
  | none => count

theorem successes_le (device : InMemoryDevice) (count : Nat) : device.successes count ≤ count := by
  unfold successes
  split
  · exact Nat.min_le_right _ _
  · exact Nat.le_refl _

theorem verdict_eq (device : InMemoryDevice) {attempt count : Nat} (within : attempt < count) :
    device.verdict attempt =
      if attempt < device.successes count then .ok () else .error (.injection "mock failure") := by
  have admits : { device with attempts := attempt }.admits = true ↔
      attempt < device.successes count := by
    unfold InMemoryDevice.admits successes
    cases device.failAfter with
    | none => simpa using within
    | some most =>
        simp only [decide_eq_true_eq]
        omega
  unfold verdict
  simp only [admits]

/-- The answers are successes first, and failures from then on. -/
theorem map_verdict (device : InMemoryDevice) (count : Nat) :
    (List.range' 0 count).map device.verdict =
      List.replicate (device.successes count) (.ok ()) ++
        List.replicate (count - device.successes count)
          (.error (.injection "mock failure")) := by
  have within := device.successes_le count
  have parts := @List.range'_append_1 0 (device.successes count)
    (count - device.successes count)
  rw [Nat.add_sub_cancel' within] at parts
  rw [← parts, List.map_append]
  congr 1
  · apply List.eq_replicate_iff.mpr
    refine ⟨by simp, ?_⟩
    intro answer member
    obtain ⟨attempt, isEarly, rfl⟩ := List.mem_map.mp member
    have early := List.mem_range'_1.mp isEarly
    rw [device.verdict_eq (by omega : attempt < count), if_pos (by omega)]
  · apply List.eq_replicate_iff.mpr
    refine ⟨by simp, ?_⟩
    intro answer member
    obtain ⟨attempt, isLate, rfl⟩ := List.mem_map.mp member
    have late := List.mem_range'_1.mp isLate
    rw [device.verdict_eq (by omega : attempt < count), if_neg (by omega)]

theorem length_acceptedEvents {injected : List Injected} {count rest : Nat} {error : DeviceError}
    (answers : injected.map Injected.answer =
      List.replicate count (.ok ()) ++ List.replicate rest (.error error)) :
    (acceptedEvents injected).length = count := by
  have counted : (acceptedEvents injected).length =
      (injected.map Injected.answer).countP Except.isOk := by
    rw [List.countP_map, List.countP_eq_length_filter, acceptedEvents, List.length_map]
    rfl
  rw [counted, answers]
  simp [List.countP_append, List.countP_replicate, Except.isOk, Except.toBool]

/-! ## The parts of the device -/

/-- An injection changes the count and the lists, and nothing else. -/
theorem inject_eq (device : InMemoryDevice) (event : Injection) :
    ∃ presses keys touches, device.inject event =
      (device.verdict device.attempts,
        { device with attempts := device.attempts + 1, presses, keys, touches }) := by
  unfold inject verdict
  split
  · split
    · cases event <;> exact ⟨_, _, _, rfl⟩
    · exact ⟨_, _, _, rfl⟩
  · exact ⟨_, _, _, rfl⟩

/-- A device that keeps no events, and none so far. -/
def silenced (device : InMemoryDevice) : InMemoryDevice :=
  { device with keepsEvents := false, presses := #[], keys := #[], touches := #[] }

theorem inject_silenced (device : InMemoryDevice) (event : Injection) :
    device.silenced.inject event =
      (device.verdict device.attempts, { device with attempts := device.attempts + 1 }.silenced) := by
  have verdict := device.silenced.answer_inject event
  unfold inject at verdict ⊢
  split
  · next admitted =>
    rw [if_pos admitted] at verdict
    exact congrArg (·, _) verdict
  · next refused =>
    rw [if_neg refused] at verdict
    exact congrArg (·, _) verdict

theorem unwinds_silenced :
    Device.Unwinds (fun one other : InMemoryDevice => other = one.silenced)
      fun _ => True := by
  have handle : ∀ (device : InMemoryDevice) (call : Call), device.silenced.handle call =
      ((device.handle call).1, (device.handle call).2.silenced) := by
    intro device call
    cases call with
    | inject event display =>
        obtain ⟨presses, keys, touches, injected⟩ := device.inject_eq event
        simp only [InMemoryDevice.handle, inject_silenced, injected]
        rfl
    | setClipboard text =>
        have rejects : device.silenced.rejectsClipboard = device.rejectsClipboard := rfl
        simp only [InMemoryDevice.handle, store, rejects]
        split <;> rfl
    | _ => rfl
  constructor
  · rintro one other call rfl -
    exact (congrArg Prod.fst (handle one call)).symm
  · rintro one other call rfl -
    exact congrArg Prod.snd (handle one call)
  · intro one other call _ absent
    exact absurd trivial absent

/-- Only calls for the clipboard see what it holds. -/
theorem unwinds_unclipped :
    Device.Unwinds (fun one other : InMemoryDevice => ∃ clipboard, other = { one with clipboard })
      fun call => ¬ call.IsClipboard := by
  have handle : ∀ (device : InMemoryDevice) (clipboard : Option String) (call : Call),
      ¬ call.IsClipboard → { device with clipboard }.handle call =
        ((device.handle call).1, { (device.handle call).2 with clipboard }) := by
    intro device clipboard call other
    cases call with
    | inject event display =>
        have admits : { device with clipboard }.admits = device.admits := rfl
        simp only [InMemoryDevice.handle, inject, admits]
        split
        · split
          · cases event <;> rfl
          · rfl
        · rfl
    | clipboard => exact absurd .clipboard other
    | setClipboard text => exact absurd (.setClipboard text) other
    | _ => rfl
  constructor
  · rintro one _ call ⟨clipboard, rfl⟩ other
    exact (congrArg Prod.fst (handle one clipboard call other)).symm
  · rintro one _ call ⟨clipboard, rfl⟩ other
    exact ⟨clipboard, congrArg Prod.snd (handle one clipboard call other)⟩
  · rintro one _ call ⟨clipboard, rfl⟩ isClipboard
    cases Classical.not_not.mp isClipboard with
    | clipboard => exact ⟨clipboard, rfl⟩
    | setClipboard text =>
        change ∃ other, _ = { (one.store text).2 with clipboard := other }
        unfold store
        split
        · exact ⟨clipboard, rfl⟩
        · exact ⟨clipboard, rfl⟩

/-- Only injections see the ledger. -/
theorem unwinds_uninjected :
    Device.Unwinds
      (fun one other : InMemoryDevice =>
        ∃ attempts presses keys touches, other = { one with attempts, presses, keys, touches })
      fun call => call.injection? = none := by
  have handle : ∀ (device : InMemoryDevice) (attempts : Nat) (presses : Array KeyCode)
      (keys : Array KeyEvent) (touches : Array TouchEvent) (call : Call),
      call.injection? = none → { device with attempts, presses, keys, touches }.handle call =
        ((device.handle call).1,
          { (device.handle call).2 with attempts, presses, keys, touches }) := by
    intro device attempts presses keys touches call other
    cases call with
    | inject event display => cases other
    | setClipboard text =>
        simp only [InMemoryDevice.handle, store]
        split <;> rfl
    | _ => rfl
  constructor
  · rintro one _ call ⟨attempts, presses, keys, touches, rfl⟩ other
    exact (congrArg Prod.fst (handle one attempts presses keys touches call other)).symm
  · rintro one _ call ⟨attempts, presses, keys, touches, rfl⟩ other
    exact ⟨attempts, presses, keys, touches,
      congrArg Prod.snd (handle one attempts presses keys touches call other)⟩
  · rintro one _ call ⟨attempts, presses, keys, touches, rfl⟩ isInjection
    cases call with
    | inject event display =>
        obtain ⟨_, _, _, injected⟩ := one.inject_eq event
        have after : (Device.answer one (.inject event display)).device = (one.inject event).2 :=
          rfl
        rw [after, injected]
        exact ⟨attempts, presses, keys, touches, rfl⟩
    | _ => exact absurd rfl isInjection

/-! ## The ledger -/

/-- A device with some settings before its first call. -/
def unused (settings : InMemoryDevice) : InMemoryDevice :=
  { settings with attempts := 0, presses := #[], keys := #[], touches := #[] }

/-- Injections of all kinds are counted together, refused ones too, and the first of them
succeed.  The lists hold those that succeeded, each kind in order; a device that keeps no
events answers in the same way.  Calls for the clipboard and injections could each be made
without the others. -/
theorem ledger_is_exact (settings : InMemoryDevice) (calls : List Call) :
    let device := settings.unused
    let asked := Device.answers device calls
    let after := Device.answerAll device calls
    let injected := asked.filterMap Asked.injected?
    let successes := device.successes injected.length
    let silent := { device with keepsEvents := false }
    let unclipped := calls.filter fun call => ¬ call.IsClipboard
    let uninjected := calls.filter fun call => call.injection? = none
    (asked.map Asked.call = calls ∧
      injected.map Injected.event = calls.filterMap Call.injection?) ∧
    after.attempts = injected.length ∧
    injected.map Injected.answer =
      List.replicate successes (.ok ()) ++
        List.replicate (injected.length - successes) (.error (.injection "mock failure")) ∧
    (settings.keepsEvents = true →
      after.ledger = .ofEvents (acceptedEvents injected) ∧ after.ledger.length = successes) ∧
    (settings.keepsEvents = false → after.ledger = .ofEvents []) ∧
    (Device.answers silent calls = asked ∧
      (Device.answerAll silent calls).attempts = after.attempts ∧
      (Device.answerAll silent calls).clipboard = after.clipboard) ∧
    (Device.answers device unclipped = asked.filter (fun asked => ¬ asked.call.IsClipboard) ∧
      (Device.answerAll device unclipped).attempts = after.attempts ∧
      (Device.answerAll device unclipped).ledger = after.ledger) ∧
    (Device.answers device uninjected =
        asked.filter (fun asked => asked.call.injection? = none) ∧
      (Device.answerAll device uninjected).clipboard = after.clipboard) := by
  intro device asked after injected successes silent unclipped uninjected
  have entered : Enters device injected after := device.enters_answerAll calls
  have answers : injected.map Injected.answer =
      List.replicate successes (.ok ()) ++
        List.replicate (injected.length - successes) (.error (.injection "mock failure")) :=
    entered.answers.trans (device.map_verdict injected.length)
  have ledger : after.ledger = device.entries injected := entered.ledger
  refine ⟨⟨Device.call_answers device calls, ?_⟩, ?_, answers, ?_, ?_, ?_, ?_, ?_⟩
  · exact Device.event_answers device calls
  · simpa [device, unused] using entered.attempts
  · intro keeps
    have listed : after.ledger = .ofEvents (acceptedEvents injected) :=
      ledger.trans (if_pos keeps)
    refine ⟨listed, ?_⟩
    rw [listed, Ledger.length_ofEvents]
    exact length_acceptedEvents answers
  · intro discards
    apply ledger.trans
    simp [entries, device, unused, discards]
  · have alike : silent = device.silenced := rfl
    obtain ⟨answered, same⟩ := unwinds_silenced.answers_filter alike calls
    simp only [decide_true, List.filter_true] at answered same
    refine ⟨answered.symm, ?_, ?_⟩
    all_goals rw [same]; rfl
  · have alike : ∃ clipboard, device = { device with clipboard } := ⟨_, rfl⟩
    obtain ⟨answered, _, same⟩ := unwinds_unclipped.answers_filter alike calls
    refine ⟨answered.symm, ?_, ?_⟩
    · rw [same]
    · rw [same]
      rfl
  · have alike : ∃ attempts presses keys touches,
        device = { device with attempts, presses, keys, touches } := ⟨_, _, _, _, rfl⟩
    obtain ⟨answered, _, _, _, _, same⟩ := unwinds_uninjected.answers_filter alike calls
    refine ⟨answered.symm, ?_⟩
    rw [same]

end InMemoryDevice

end RemoteInput
