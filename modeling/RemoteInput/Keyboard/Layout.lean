import RemoteInput.Keyboard.Composition
import RemoteInput.Keyboard.Key

/-!
# Keyboard layout

A keyboard with a US layout and five dead accents.  A character is typed by one
stroke: a key, alone or while one modifier is held.  The events of a stroke
press the modifier first and release it last, so no key stays down between two
characters.
-/

namespace RemoteInput

/-- A modifier that a stroke may hold. -/
inductive Modifier where
  | shift
  | alt
  deriving DecidableEq, Repr

namespace Modifier

/-- The key of a modifier. -/
def key : Modifier → KeyCode
  | .shift => .leftShift
  | .alt => .leftAlt

/-- The state while a modifier is held. -/
def held : Modifier → MetaState
  | .shift => .shift
  | .alt => .alt

end Modifier

/-- One key, typed alone or under a modifier. -/
structure Stroke where
  code : KeyCode
  modifier : Option Modifier
  deriving DecidableEq, Repr

namespace Stroke

/-- A key alone. -/
def plain (code : KeyCode) : Stroke := ⟨code, none⟩

/-- A key while Shift is held. -/
def shifted (code : KeyCode) : Stroke := ⟨code, some .shift⟩

/-- A key while Alt is held. -/
def withAlt (code : KeyCode) : Stroke := ⟨code, some .alt⟩

/-- The modifiers held while the key of a stroke is down. -/
def held (stroke : Stroke) : MetaState :=
  match stroke.modifier with
  | none => .none
  | some modifier => modifier.held

/-- The events that type a stroke. -/
def events (stroke : Stroke) : List KeyEvent :=
  match stroke.modifier with
  | none => [.down stroke.code, .up stroke.code]
  | some modifier =>
      [.single .down modifier.key modifier.held,
        .single .down stroke.code modifier.held,
        .single .up stroke.code modifier.held,
        .up modifier.key]

end Stroke

namespace Layout

/-- The keys that are neither letters nor digits, with what they type alone and
under a modifier. -/
def symbolStrokes : List (Char × Stroke) :=
  [(' ', .plain .space), ('\n', .plain .enter), ('\t', .plain .tab),
    ('\x60', .plain .grave), ('~', .shifted .grave),
    ('-', .plain .minus), ('_', .shifted .minus),
    ('=', .plain .equals), ('+', .plain .plus),
    ('[', .plain .leftBracket), ('\x7b', .shifted .leftBracket),
    (']', .plain .rightBracket), ('\x7d', .shifted .rightBracket),
    ('\\', .plain .backslash), ('|', .shifted .backslash),
    (';', .plain .semicolon), (':', .shifted .semicolon),
    ('\x27', .plain .apostrophe), ('"', .shifted .apostrophe),
    (',', .plain .comma), ('<', .shifted .comma),
    ('.', .plain .period), ('>', .shifted .period),
    ('/', .plain .slash), ('?', .shifted .slash),
    ('@', .plain .atSign), ('*', .plain .star), ('#', .plain .pound)]

/-- The digit keys that type a symbol under Shift. -/
def shiftedDigits : List (Char × Nat) :=
  [('!', 1), ('$', 4), ('%', 5), ('^', 6), ('&', 7), ('(', 9), (')', 0)]

/-- The stroke of a dead accent. -/
def accentStroke : Accent → Option Stroke
  | .grave => some (.withAlt .grave)
  | .acute => (KeyCode.letter? 'e').map .withAlt
  | .circumflex => (KeyCode.letter? 'i').map .withAlt
  | .tilde => (KeyCode.letter? 'n').map .withAlt
  | .diaeresis => (KeyCode.letter? 'u').map .withAlt

/-- The accents of the layout. -/
def accents : List Accent :=
  [.grave, .acute, .circumflex, .tilde, .diaeresis]

/-- The stroke that types a character. -/
def stroke? (c : Char) : Option Stroke :=
  if c.isLower then (KeyCode.letter? c).map .plain
  else if c.isUpper then (KeyCode.letter? c).map .shifted
  else if c.isDigit then (KeyCode.digit? (c.toNat - 0x30)).map .plain
  else
    match symbolStrokes.lookup c with
    | some stroke => some stroke
    | none =>
        match shiftedDigits.lookup c with
        | some n => (KeyCode.digit? n).map .shifted
        | none => (accents.find? fun accent => accent.character = c).bind accentStroke

/-- The events that type a text, if every character has a stroke. -/
def events? : List Char → Option (List KeyEvent)
  | [] => some []
  | c :: rest => do
      let stroke ← stroke? c
      let events ← events? rest
      some (stroke.events ++ events)

end Layout

end RemoteInput
