import RemoteInput.Console
import RemoteInput.Keyboard.Composition
import RemoteInput.Text.Quoted

/-!
# Typing text

A text is typed one character at a time.  An accented letter is typed as its
accent followed by its base letter.  A character that the keyboard cannot type,
or one of whose key events fails, is skipped, and typing goes on with the next.
-/

namespace RemoteInput

/-- How many characters of a text were typed and how many were skipped. -/
structure TypingReport where
  typed : Nat
  skipped : Nat
  deriving DecidableEq, Repr

namespace TypingReport

/-- The number of characters of the text. -/
def total (report : TypingReport) : Nat :=
  report.typed + report.skipped

/-- The report of no text. -/
def none : TypingReport := ⟨0, 0⟩

/-- Counts one more character. -/
def count (report : TypingReport) (typed : Bool) : TypingReport :=
  if typed then
    { report with typed := report.typed + 1 }
  else
    { report with skipped := report.skipped + 1 }

end TypingReport

namespace Console

variable {σ : Type} [Device σ]

/-- What is typed for a character. -/
def spelling (c : Char) : List Char :=
  (Composition.decompose? c).getD [c]

/-- Injects key events up to the first that fails; the answer is whether none
failed. -/
def injectAll : List KeyEvent → Act σ Bool
  | [] => pure true
  | event :: rest => do
      match ← inject (.key event) with
      | .ok () => injectAll rest
      | .error _ => pure false

/-- Types a character. -/
def typeChar (c : Char) : Act σ Bool := do
  match ← ask (.keysFor (spelling c)) with
  | some events => injectAll events
  | none => pure false

/-- The wording of a skipped character. -/
def skippedMessage (c : Char) : String :=
  "could not inject char U+"
    ++ String.ofList (Text.upper (Text.hexPadded 4 c.toNat))

/-- Types a text, adding to a report. -/
def typeOn (report : TypingReport) : List Char → Act σ TypingReport
  | [] => pure report
  | c :: rest => do
      let typed ← typeChar c
      if !typed then
        note .warn (skippedMessage c) []
      typeOn (report.count typed) rest

/-- Types a text. -/
def typeText (text : String) : Act σ TypingReport :=
  typeOn .none text.toList

end Console

end RemoteInput
