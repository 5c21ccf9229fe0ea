import Mathlib.Data.Finset.Basic
import RemoteInput.Proofs.Keyboard.Layout

/-!
# Which keys are held

Key events are replayed on the set of keys that are held.  While a text is typed, a key
goes down only when it is up and comes up only when it is down, one modifier is held at
most, and each event tells which one.  Between two characters no key is held.
-/

namespace RemoteInput

/-- The modifiers among the held keys are those of a state. -/
inductive MetaState.Shows (held : Finset KeyCode) : MetaState → Prop where
  | none (noShift : .leftShift ∉ held) (noAlt : .leftAlt ∉ held) : Shows held .none
  | shift (shift : .leftShift ∈ held) (noAlt : .leftAlt ∉ held) : Shows held .shift
  | alt (noShift : .leftShift ∉ held) (alt : .leftAlt ∈ held) : Shows held .alt

namespace KeyEvent

/-- The keys that are held after an event. -/
def apply (held : Finset KeyCode) (event : KeyEvent) : Finset KeyCode :=
  match event.motion with
  | .down => insert event.code held
  | .up => held.erase event.code

def heldAfter (held : Finset KeyCode) (events : List KeyEvent) : Finset KeyCode :=
  events.foldl apply held

/-- An event that can happen while some keys are held, and tells the modifiers that are
held after it. -/
structure Proper (held : Finset KeyCode) (event : KeyEvent) : Prop where
  down : event.motion = .down → event.code ∉ held
  up : event.motion = .up → event.code ∈ held
  shows : event.held.Shows (apply held event)

def Orderly (held : Finset KeyCode) : List KeyEvent → Prop
  | [] => True
  | event :: rest => Proper held event ∧ Orderly (apply held event) rest

end KeyEvent

/-! ## Replaying events -/

namespace KeyEvent

variable {held : Finset KeyCode}

theorem heldAfter_append (earlier later : List KeyEvent) :
    heldAfter held (earlier ++ later) = heldAfter (heldAfter held earlier) later :=
  List.foldl_append

theorem orderly_append_iff {earlier later : List KeyEvent} :
    Orderly held (earlier ++ later) ↔
      Orderly held earlier ∧ Orderly (heldAfter held earlier) later := by
  induction earlier generalizing held with
  | nil => simp [Orderly, heldAfter]
  | cons event earlier induction =>
      simp only [List.cons_append, Orderly, induction, and_assoc]
      rfl

theorem Orderly.proper {before after : List KeyEvent} {event : KeyEvent}
    (orderly : Orderly held (before ++ event :: after)) :
    Proper (heldAfter held before) event :=
  (orderly_append_iff.mp orderly).2.1

/-- Events that begin and end with no key held. -/
structure Balanced (events : List KeyEvent) : Prop where
  orderly : Orderly ∅ events
  released : heldAfter ∅ events = ∅

theorem balanced_nil : Balanced [] :=
  ⟨trivial, rfl⟩

theorem Balanced.append {earlier later : List KeyEvent} (first : Balanced earlier)
    (second : Balanced later) : Balanced (earlier ++ later) := by
  refine ⟨orderly_append_iff.mpr ⟨first.orderly, ?_⟩, ?_⟩
  · rw [first.released]
    exact second.orderly
  · rw [heldAfter_append, first.released, second.released]

end KeyEvent

theorem MetaState.Shows.not_both {held : Finset KeyCode} {state : MetaState}
    (shows : state.Shows held) : ¬ (.leftShift ∈ held ∧ .leftAlt ∈ held) := by
  rintro ⟨shift, alt⟩
  cases shows with
  | none noShift noAlt => exact noShift shift
  | shift shift noAlt => exact noAlt alt
  | alt noShift alt => exact noShift shift

/-! ## Strokes -/

/-- A key that is no modifier does not count. -/
theorem MetaState.Shows.insert {held : Finset KeyCode} {state : MetaState} {code : KeyCode}
    (shows : state.Shows held) (apart : ∀ modifier : Modifier, code ≠ modifier.key) :
    state.Shows (insert code held) := by
  have same : ∀ modifier : Modifier, modifier.key ∈ Insert.insert code held ↔
      modifier.key ∈ held := by
    intro modifier
    rw [Finset.mem_insert]
    exact or_iff_right (apart modifier).symm
  cases shows with
  | none noShift noAlt => exact .none (mt (same .shift).mp noShift) (mt (same .alt).mp noAlt)
  | shift shift noAlt => exact .shift ((same .shift).mpr shift) (mt (same .alt).mp noAlt)
  | alt noShift alt => exact .alt (mt (same .shift).mp noShift) ((same .alt).mpr alt)

private theorem shows_key (modifier : Modifier) : modifier.held.Shows {modifier.key} := by
  cases modifier with
  | shift => exact .shift (by decide) (by decide)
  | alt => exact .alt (by decide) (by decide)

private theorem shows_empty : MetaState.none.Shows ∅ :=
  .none (Finset.notMem_empty _) (Finset.notMem_empty _)

namespace KeyEvent

/-- A key that goes down and comes up while others are held. -/
def tap (code : KeyCode) (state : MetaState) : List KeyEvent :=
  [single .down code state, single .up code state]

variable {held : Finset KeyCode} {state : MetaState} {code : KeyCode}

theorem heldAfter_tap (free : code ∉ held) : heldAfter held (tap code state) = held :=
  Finset.erase_insert free

theorem orderly_tap (free : code ∉ held) (shows : state.Shows held)
    (apart : ∀ modifier : Modifier, code ≠ modifier.key) : Orderly held (tap code state) := by
  refine ⟨⟨fun _ => free, nofun, shows.insert apart⟩, ⟨nofun, fun _ => ?_, ?_⟩, trivial⟩
  · exact Finset.mem_insert_self code held
  · change state.Shows ((insert code held).erase code)
    rwa [Finset.erase_insert free]

theorem balanced_tap (apart : ∀ modifier : Modifier, code ≠ modifier.key) :
    Balanced (tap code .none) :=
  ⟨orderly_tap (Finset.notMem_empty _) shows_empty apart,
    heldAfter_tap (Finset.notMem_empty _)⟩

/-- A modifier is held around a key. -/
theorem balanced_modified (modifier : Modifier)
    (apart : ∀ modifier : Modifier, code ≠ modifier.key) :
    Balanced (single .down modifier.key modifier.held ::
      (tap code modifier.held ++ [up modifier.key])) := by
  have pressed : heldAfter ∅ [single .down modifier.key modifier.held] = {modifier.key} := rfl
  have free : code ∉ ({modifier.key} : Finset KeyCode) := by
    rw [Finset.mem_singleton]
    exact apart modifier
  have released : ({modifier.key} : Finset KeyCode).erase modifier.key = ∅ :=
    Finset.erase_singleton _
  constructor
  · refine ⟨⟨fun _ => Finset.notMem_empty _, nofun, shows_key modifier⟩, ?_⟩
    refine orderly_append_iff.mpr ⟨orderly_tap free (shows_key modifier) apart, ?_⟩
    change Orderly (heldAfter {modifier.key} (tap code modifier.held)) [up modifier.key]
    rw [heldAfter_tap free]
    refine ⟨⟨nofun, fun _ => Finset.mem_singleton_self _, ?_⟩, trivial⟩
    change MetaState.none.Shows (({modifier.key} : Finset KeyCode).erase modifier.key)
    rw [released]
    exact shows_empty
  · change heldAfter {modifier.key} (tap code modifier.held ++ [up modifier.key]) = ∅
    rw [heldAfter_append, heldAfter_tap free]
    exact released

end KeyEvent

/-- A stroke whose key is no modifier leaves no key held. -/
theorem Stroke.balanced {stroke : Stroke}
    (apart : ∀ modifier : Modifier, stroke.code ≠ modifier.key) :
    KeyEvent.Balanced stroke.events := by
  obtain ⟨code, modifier⟩ := stroke
  cases modifier with
  | none => exact KeyEvent.balanced_tap apart
  | some modifier => exact KeyEvent.balanced_modified modifier apart

theorem Stroke.length_events (stroke : Stroke) :
    stroke.events.length = 2 + 2 * stroke.modifier.isSome.toNat := by
  obtain ⟨code, modifier⟩ := stroke
  cases modifier with
  | none => rfl
  | some modifier => rfl

/-! ## Texts -/

namespace Layout

def isModified (c : Char) : Bool :=
  (stroke? c).any fun stroke => stroke.modifier.isSome

variable {text : List Char} {events : List KeyEvent}

theorem balanced_of_events? (typed : events? text = some events) :
    KeyEvent.Balanced events := by
  induction text generalizing events with
  | nil =>
      cases typed
      exact KeyEvent.balanced_nil
  | cons c rest induction =>
      obtain ⟨stroke, later, isFirst, isLater, rfl⟩ := events?_cons_eq_some_iff.mp typed
      exact (Stroke.balanced (code_ne_key isFirst)).append (induction isLater)

theorem length_of_events? (typed : events? text = some events) :
    events.length = 2 * text.length + 2 * text.countP isModified := by
  induction text generalizing events with
  | nil =>
      cases typed
      rfl
  | cons c rest induction =>
      obtain ⟨stroke, later, isFirst, isLater, rfl⟩ := events?_cons_eq_some_iff.mp typed
      have modified : isModified c = stroke.modifier.isSome := by
        rw [isModified, isFirst, Option.any_some]
      have counted : (c :: rest).countP isModified =
          rest.countP isModified + stroke.modifier.isSome.toNat := by
        rw [List.countP_cons, modified]
        cases stroke.modifier <;> rfl
      rw [List.length_append, stroke.length_events, induction isLater, counted, List.length_cons]
      omega

/-- The events of a text replayed from no key held. -/
structure ReleasesKeys (text : List Char) (events : List KeyEvent) : Prop where
  proper : ∀ before event after, events = before ++ event :: after →
    event.Proper (KeyEvent.heldAfter ∅ before)
  oneModifier : ∀ before after, events = before ++ after →
    ¬ (.leftShift ∈ KeyEvent.heldAfter ∅ before ∧ .leftAlt ∈ KeyEvent.heldAfter ∅ before)
  betweenCharacters : ∀ first second, text = first ++ second →
    ∃ earlier later, events? first = some earlier ∧ events? second = some later ∧
      events = earlier ++ later ∧ KeyEvent.heldAfter ∅ earlier = ∅
  atEnd : KeyEvent.heldAfter ∅ events = ∅
  length : events.length = 2 * text.length + 2 * text.countP isModified

/-- While a text is typed, keys go down that are up and come up that are down, one
modifier is held at most, each event tells the modifiers that are held after it, and
after each character no key is held.  A character takes two events, and two more if it
is modified. -/
theorem typed_keys_are_released (typed : events? text = some events) :
    ReleasesKeys text events := by
  have balanced := balanced_of_events? typed
  have proper : ∀ before event after, events = before ++ event :: after →
      event.Proper (KeyEvent.heldAfter ∅ before) := by
    rintro before event after rfl
    exact balanced.orderly.proper
  refine ⟨proper, ?_, ?_, balanced.released, length_of_events? typed⟩
  · intro before after parts
    -- The last event so far tells the modifiers, and no state tells both.
    cases before using List.reverseRecOn with
    | nil => exact fun both => Finset.notMem_empty _ both.1
    | append_singleton before event =>
        rw [List.append_assoc, List.singleton_append] at parts
        rw [KeyEvent.heldAfter_append]
        exact (proper before event after parts).shows.not_both
  · rintro first second rfl
    obtain ⟨earlier, later, isFirst, isSecond, parts⟩ := events?_append_eq_some_iff.mp typed
    exact ⟨earlier, later, isFirst, isSecond, parts, (balanced_of_events? isFirst).released⟩

/-- A capital under Shift, a dead accent under Alt, and the letter below it. -/
theorem typed_keys_are_released_of_accent :
    ∃ events, events? ['H', '\u0301', 'e'] = some events ∧ events.length = 10 ∧
      ReleasesKeys ['H', '\u0301', 'e'] events := by
  obtain ⟨events, typed⟩ : ∃ events, events? ['H', '\u0301', 'e'] = some events := ⟨_, rfl⟩
  have releases := typed_keys_are_released typed
  exact ⟨events, typed, releases.length, releases⟩

end Layout

end RemoteInput
