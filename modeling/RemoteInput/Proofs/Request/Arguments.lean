import RemoteInput.Request.Arguments

/-!
# Why arguments are refused

Each command has a few refusals for its arguments: one for each kind of field,
and one for too few words or too many.  Its arguments are refused for no other
reason.
-/

namespace RemoteInput

namespace Request

/-- A reader that refuses for some reasons only. -/
def RefusesAs {α : Type} (reasons : List Refusal) (read : Except Refusal α) : Prop :=
  ∀ refusal, read = .error refusal → refusal ∈ reasons

section

variable {α β : Type} {reasons : List Refusal}

theorem refusesAs_ok (value : α) : RefusesAs reasons (.ok value) := by
  intro refusal same
  cases same

theorem refusesAs_error {refusal : Refusal} (member : refusal ∈ reasons) :
    RefusesAs reasons (.error refusal : Except Refusal α) := by
  intro other same
  cases same
  exact member

theorem RefusesAs.bind {first : Except Refusal α} {next : α → Except Refusal β}
    (early : RefusesAs reasons first) (later : ∀ value, RefusesAs reasons (next value)) :
    RefusesAs reasons (first >>= next) := by
  cases first with
  | ok value => exact later value
  | error refusal =>
      intro other same
      cases same
      exact early refusal rfl

theorem RefusesAs.mono {more : List Refusal} {read : Except Refusal α}
    (refuses : RefusesAs reasons read) (wider : reasons ⊆ more) : RefusesAs more read := by
  intro refusal same
  exact wider (refuses refusal same)

theorem RefusesAs.map {read : Except Refusal α} (refuses : RefusesAs reasons read)
    (change : α → β) : RefusesAs reasons (read.map change) := by
  cases read with
  | ok value => exact refusesAs_ok _
  | error refusal => exact refusesAs_error (refuses refusal rfl)

theorem refusesAs_field {refusal : Refusal} (member : refusal ∈ reasons)
    (read : List Char → Option α) (word : List Char) :
    RefusesAs reasons (field read refusal word) := by
  unfold field
  cases read word with
  | some value => exact refusesAs_ok value
  | none => exact refusesAs_error member

theorem refusesAs_noMore (member : .invalidArguments ∈ reasons) (words : List (List Char)) :
    RefusesAs reasons (noMore words) := by
  cases words with
  | nil => exact refusesAs_ok ()
  | cons word words => exact refusesAs_error member

end

def Tap.refusals : List Refusal :=
  [.invalidArguments, .invalidCoordinates, .invalidPressure, .invalidButtons]

theorem refusesAs_tap (arguments : String) :
    RefusesAs Tap.refusals (Tap.ofArguments arguments) := by
  unfold Tap.ofArguments
  split
  · next x y rest _ =>
    apply (refusesAs_field (by decide) _ x).bind
    intro x
    apply (refusesAs_field (by decide) _ y).bind
    intro y
    cases rest with
    | nil => exact refusesAs_ok _
    | cons pressure rest =>
        apply (refusesAs_field (by decide) _ pressure).bind
        intro pressure
        cases rest with
        | nil => exact refusesAs_ok _
        | cons buttons rest =>
            apply (refusesAs_field (by decide) _ buttons).bind
            intro buttons
            apply (refusesAs_noMore (by decide) rest).bind
            intro _
            exact refusesAs_ok _
  · exact refusesAs_error (by decide)

def Swipe.refusals : List Refusal :=
  [.invalidArguments, .invalidCoordinates]

theorem refusesAs_swipe (arguments : String) :
    RefusesAs Swipe.refusals (Swipe.ofArguments arguments) := by
  unfold Swipe.ofArguments
  split
  · iterate 5
      apply (refusesAs_field (by decide) _ _).bind
      intro _
    apply (refusesAs_noMore (by decide) _).bind
    intro _
    exact refusesAs_ok _
  · exact refusesAs_error (by decide)

def KeyPress.refusals : List Refusal :=
  [.invalidArguments, .invalidKeycode]

theorem refusesAs_keyPress (arguments : String) :
    RefusesAs KeyPress.refusals (KeyPress.ofArguments arguments) := by
  unfold KeyPress.ofArguments
  split
  · exact refusesAs_error (by decide)
  · next code rest _ =>
    apply (refusesAs_field (by decide) _ code).bind
    intro code
    cases rest with
    | nil => exact refusesAs_ok _
    | cons action rest =>
        apply (refusesAs_noMore (by decide) rest).bind
        intro _
        exact refusesAs_ok _

end Request

end RemoteInput
