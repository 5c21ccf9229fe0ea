import Mathlib.Data.List.Forall2
import Mathlib.Data.List.Nodup
import RemoteInput.Keyboard.Layout

/-!
# What a layout types

A text is typed by the strokes of its characters, one after another.  Each character
has a stroke of its own, and the events of a stroke say where it ends; so the events of
a text determine the text.
-/

namespace RemoteInput

/-! ## Strokes -/

/-- The state while the key of a stroke is down tells the modifier. -/
private theorem held_inj {modifier other : Modifier} :
    modifier.held = other.held ↔ modifier = other := by
  cases modifier <;> cases other <;> decide

private theorem held_ne_none (modifier : Modifier) : modifier.held ≠ .none := by
  cases modifier <;> decide

namespace Stroke

theorem events_ne_nil (stroke : Stroke) : stroke.events ≠ [] := by
  unfold events
  split
  · exact List.cons_ne_nil _ _
  · exact List.cons_ne_nil _ _

/-- The first event of a stroke tells its modifier, and the first or second its key: no
stroke begins another. -/
theorem events_append_inj {stroke other : Stroke} {rest later : List KeyEvent} :
    stroke.events ++ rest = other.events ++ later ↔ stroke = other ∧ rest = later := by
  constructor
  · intro same
    obtain ⟨code, modifier⟩ := stroke
    obtain ⟨code', modifier'⟩ := other
    cases modifier with
    | none =>
        cases modifier' with
        | none =>
            simp only [events, List.cons_append, List.nil_append, List.cons.injEq] at same
            obtain ⟨first, _, rest⟩ := same
            cases first
            exact ⟨rfl, rest⟩
        | some modifier' =>
            simp only [events, List.cons_append, List.cons.injEq] at same
            exact (held_ne_none modifier' (congrArg KeyEvent.held same.1).symm).elim
    | some modifier =>
        cases modifier' with
        | none =>
            simp only [events, List.cons_append, List.cons.injEq] at same
            exact (held_ne_none modifier (congrArg KeyEvent.held same.1)).elim
        | some modifier' =>
            simp only [events, List.cons_append, List.nil_append, List.cons.injEq] at same
            obtain ⟨first, second, _, _, rest⟩ := same
            have sameModifier := held_inj.mp (congrArg KeyEvent.held first)
            have sameCode : code = code' := congrArg KeyEvent.code second
            exact ⟨by rw [sameModifier, sameCode], rest⟩
  · rintro ⟨rfl, rfl⟩
    rfl

/-- Events determine the strokes that they type. -/
theorem flatMap_events_inj {strokes others : List Stroke} :
    strokes.flatMap events = others.flatMap events ↔ strokes = others := by
  constructor
  · intro same
    induction strokes generalizing others with
    | nil =>
        cases others with
        | nil => rfl
        | cons other others =>
            rw [List.flatMap_nil, List.flatMap_cons] at same
            exact (events_ne_nil other (List.append_eq_nil_iff.mp same.symm).1).elim
    | cons stroke strokes induction =>
        cases others with
        | nil =>
            rw [List.flatMap_nil, List.flatMap_cons] at same
            exact (events_ne_nil stroke (List.append_eq_nil_iff.mp same).1).elim
        | cons other others =>
            rw [List.flatMap_cons, List.flatMap_cons, events_append_inj] at same
            obtain ⟨rfl, later⟩ := same
            rw [induction later]
  · rintro rfl
    rfl

end Stroke

namespace Layout

/-! ## Characters -/

/-- The characters from one to another. -/
def span (first last : Char) : List Char :=
  (List.range' first.toNat (last.toNat + 1 - first.toNat)).map Char.ofNat

/-- The characters that have a stroke, as the layout lists them. -/
def characterGroups : List (List Char) :=
  [span 'a' 'z', span 'A' 'Z', span '0' '9', symbolStrokes.map Prod.fst,
    shiftedDigits.map Prod.fst, accents.map Accent.character]

def characters : List Char :=
  characterGroups.flatten

private theorem mem_span {first last c : Char} (low : first.toNat ≤ c.toNat)
    (high : c.toNat ≤ last.toNat) : c ∈ span first last :=
  List.mem_map.mpr ⟨c.toNat, List.mem_range'_1.mpr (by omega), Char.ofNat_toNat c⟩

private theorem mem_fst_of_lookup {α : Type} {table : List (Char × α)} {c : Char} {value : α}
    (found : table.lookup c = some value) : c ∈ table.map Prod.fst := by
  obtain ⟨before, after, rfl, _⟩ := List.lookup_eq_some_iff.mp found
  simp

theorem mem_characters {c : Char} {stroke : Stroke} (typed : stroke? c = some stroke) :
    c ∈ characters := by
  apply List.mem_flatten.mpr
  unfold stroke? at typed
  split at typed
  · next isLower =>
    obtain ⟨low, high⟩ := Bool.and_eq_true_iff.mp isLower
    exact ⟨span 'a' 'z', by simp [characterGroups],
      mem_span (of_decide_eq_true low) (of_decide_eq_true high)⟩
  split at typed
  · next isUpper =>
    obtain ⟨low, high⟩ := of_decide_eq_true isUpper
    exact ⟨span 'A' 'Z', by simp [characterGroups], mem_span low high⟩
  split at typed
  · next isDigit =>
    obtain ⟨low, high⟩ := Char.isDigit_iff_toNat.mp isDigit
    exact ⟨span '0' '9', by simp [characterGroups], mem_span low high⟩
  split at typed
  · next found => exact ⟨_, by simp [characterGroups], mem_fst_of_lookup found⟩
  split at typed
  · next found => exact ⟨_, by simp [characterGroups], mem_fst_of_lookup found⟩
  · obtain ⟨accent, found, _⟩ := Option.bind_eq_some_iff.mp typed
    have isAccent : accent.character = c := by simpa using List.find?_some found
    have member := List.mem_of_find?_eq_some found
    exact ⟨accents.map Accent.character, by simp [characterGroups],
      List.mem_map.mpr ⟨accent, member, isAccent⟩⟩

/-- Each character has a stroke of its own. -/
theorem stroke?_inj {c other : Char} {stroke : Stroke} (typed : stroke? c = some stroke)
    (typed' : stroke? other = some stroke) : c = other := by
  have distinct : (characters.map stroke?).Nodup := by decide +kernel
  exact List.inj_on_of_nodup_map distinct (mem_characters typed) (mem_characters typed')
    (typed.trans typed'.symm)

/-- No character has the key of a modifier. -/
theorem code_ne_key {c : Char} {stroke : Stroke} (typed : stroke? c = some stroke)
    (modifier : Modifier) : stroke.code ≠ modifier.key := by
  have apart : (characters.filterMap stroke?).all fun stroke =>
      stroke.code ≠ .leftShift ∧ stroke.code ≠ .leftAlt := by decide +kernel
  have member : stroke ∈ characters.filterMap stroke? :=
    List.mem_filterMap.mpr ⟨c, mem_characters typed, typed⟩
  obtain ⟨notShift, notAlt⟩ := of_decide_eq_true (List.all_eq_true.mp apart stroke member)
  cases modifier with
  | shift => exact notShift
  | alt => exact notAlt

/-! ## Texts -/

/-- The strokes of the characters of a text. -/
def Types : List Char → List Stroke → Prop :=
  List.Forall₂ fun c stroke => stroke? c = some stroke

theorem Types.inj {text other : List Char} {strokes : List Stroke} (types : Types text strokes)
    (types' : Types other strokes) : text = other := by
  apply List.left_unique_forall₂' ?_ types types'
  intro c other stroke typed typed'
  exact stroke?_inj typed typed'

theorem events?_cons_eq_some_iff {c : Char} {rest : List Char} {events : List KeyEvent} :
    events? (c :: rest) = some events ↔
      ∃ stroke later, stroke? c = some stroke ∧ events? rest = some later ∧
        events = stroke.events ++ later := by
  simp only [events?, Option.bind_eq_bind, Option.bind_eq_some_iff, Option.some.injEq]
  constructor
  · rintro ⟨stroke, typed, later, isLater, rfl⟩
    exact ⟨stroke, later, typed, isLater, rfl⟩
  · rintro ⟨stroke, later, typed, isLater, rfl⟩
    exact ⟨stroke, typed, later, isLater, rfl⟩

/-- A text is typed if its characters have strokes, and then by the events of these. -/
theorem events?_eq_some_iff {text : List Char} {events : List KeyEvent} :
    events? text = some events ↔
      ∃ strokes, Types text strokes ∧ events = strokes.flatMap Stroke.events := by
  induction text generalizing events with
  | nil => simp [events?, Types, eq_comm]
  | cons c rest induction =>
      rw [events?_cons_eq_some_iff]
      simp only [Types, List.forall₂_cons_left_iff, induction]
      constructor
      · rintro ⟨stroke, _, typed, ⟨strokes, types, rfl⟩, rfl⟩
        exact ⟨_, ⟨stroke, strokes, typed, types, rfl⟩, rfl⟩
      · rintro ⟨_, ⟨stroke, strokes, typed, types, rfl⟩, rfl⟩
        exact ⟨stroke, _, typed, ⟨strokes, types, rfl⟩, rfl⟩

theorem events?_append_eq_some_iff {first second : List Char} {events : List KeyEvent} :
    events? (first ++ second) = some events ↔
      ∃ earlier later, events? first = some earlier ∧ events? second = some later ∧
        events = earlier ++ later := by
  induction first generalizing events with
  | nil => simp [events?]
  | cons c rest induction =>
      rw [List.cons_append]
      simp only [events?_cons_eq_some_iff, induction]
      constructor
      · rintro ⟨stroke, _, typed, ⟨earlier, later, isFirst, isSecond, rfl⟩, rfl⟩
        exact ⟨_, later, ⟨stroke, earlier, typed, isFirst, rfl⟩, isSecond,
          by rw [List.append_assoc]⟩
      · rintro ⟨_, later, ⟨stroke, earlier, typed, isFirst, rfl⟩, isSecond, rfl⟩
        exact ⟨stroke, _, typed, ⟨earlier, later, isFirst, isSecond, rfl⟩,
          by rw [List.append_assoc]⟩

theorem events?_eq_none_iff {text : List Char} :
    events? text = none ↔ ∃ c ∈ text, stroke? c = none := by
  induction text with
  | nil => simp [events?]
  | cons c rest induction =>
      rw [List.exists_mem_cons_iff, ← induction]
      cases typed : stroke? c with
      | none => simp [events?, typed]
      | some stroke => cases later : events? rest <;> simp [events?, typed, later]

/-- Two texts are never typed by the same events.  A text is typed piece by piece, and
not at all if it has a character without a stroke. -/
theorem events_tell_text :
    (∀ (text other : List Char) (events : List KeyEvent),
      events? text = some events → events? other = some events → text = other) ∧
    (∀ (first second : List Char) (events : List KeyEvent),
      events? (first ++ second) = some events ↔
        ∃ earlier later, events? first = some earlier ∧ events? second = some later ∧
          events = earlier ++ later) ∧
    ∀ text : List Char, events? text = none ↔ ∃ c ∈ text, stroke? c = none := by
  refine ⟨?_, fun _ _ _ => events?_append_eq_some_iff, fun _ => events?_eq_none_iff⟩
  intro text other events typed typed'
  -- The events tell the strokes apart, and each stroke tells its character.
  obtain ⟨strokes, types, rfl⟩ := events?_eq_some_iff.mp typed
  obtain ⟨strokes', types', same⟩ := events?_eq_some_iff.mp typed'
  rw [Stroke.flatMap_events_inj] at same
  subst same
  exact types.inj types'

/-- One key types a letter, its capital and a dead accent. -/
example :
    (stroke? 'e', stroke? 'E', stroke? '\u0301') =
      (some (.plain ⟨33⟩), some (.shifted ⟨33⟩), some (.withAlt ⟨33⟩)) := by
  decide

end Layout

end RemoteInput
