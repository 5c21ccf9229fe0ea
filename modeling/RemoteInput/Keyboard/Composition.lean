/-!
# Accented letters

Keyboards type an accented letter as a dead accent followed by its base
letter.  The table lists the letters that the five dead accents of the layout
can form, in increasing order of their code points.
-/

namespace RemoteInput

/-- The accents that a dead key can type. -/
inductive Accent where
  | grave
  | acute
  | circumflex
  | tilde
  | diaeresis
  deriving DecidableEq, Repr

namespace Accent

/-- The combining character of an accent. -/
def character : Accent → Char
  | .grave => '\u0300'
  | .acute => '\u0301'
  | .circumflex => '\u0302'
  | .tilde => '\u0303'
  | .diaeresis => '\u0308'

end Accent

namespace Composition

/-- Each accented letter with its accent and its base letter. -/
def table : List (Char × Accent × Char) :=
  [
    ('\u00C0', .grave, 'A'), ('\u00C1', .acute, 'A'), ('\u00C2', .circumflex, 'A'),
    ('\u00C3', .tilde, 'A'), ('\u00C4', .diaeresis, 'A'), ('\u00C8', .grave, 'E'),
    ('\u00C9', .acute, 'E'), ('\u00CA', .circumflex, 'E'), ('\u00CB', .diaeresis, 'E'),
    ('\u00CC', .grave, 'I'), ('\u00CD', .acute, 'I'), ('\u00CE', .circumflex, 'I'),
    ('\u00CF', .diaeresis, 'I'), ('\u00D1', .tilde, 'N'), ('\u00D2', .grave, 'O'),
    ('\u00D3', .acute, 'O'), ('\u00D4', .circumflex, 'O'), ('\u00D5', .tilde, 'O'),
    ('\u00D6', .diaeresis, 'O'), ('\u00D9', .grave, 'U'), ('\u00DA', .acute, 'U'),
    ('\u00DB', .circumflex, 'U'), ('\u00DC', .diaeresis, 'U'), ('\u00DD', .acute, 'Y'),
    ('\u00E0', .grave, 'a'), ('\u00E1', .acute, 'a'), ('\u00E2', .circumflex, 'a'),
    ('\u00E3', .tilde, 'a'), ('\u00E4', .diaeresis, 'a'), ('\u00E8', .grave, 'e'),
    ('\u00E9', .acute, 'e'), ('\u00EA', .circumflex, 'e'), ('\u00EB', .diaeresis, 'e'),
    ('\u00EC', .grave, 'i'), ('\u00ED', .acute, 'i'), ('\u00EE', .circumflex, 'i'),
    ('\u00EF', .diaeresis, 'i'), ('\u00F1', .tilde, 'n'), ('\u00F2', .grave, 'o'),
    ('\u00F3', .acute, 'o'), ('\u00F4', .circumflex, 'o'), ('\u00F5', .tilde, 'o'),
    ('\u00F6', .diaeresis, 'o'), ('\u00F9', .grave, 'u'), ('\u00FA', .acute, 'u'),
    ('\u00FB', .circumflex, 'u'), ('\u00FC', .diaeresis, 'u'), ('\u00FD', .acute, 'y'),
    ('\u00FF', .diaeresis, 'y'), ('\u0106', .acute, 'C'), ('\u0107', .acute, 'c'),
    ('\u0108', .circumflex, 'C'), ('\u0109', .circumflex, 'c'),
    ('\u011C', .circumflex, 'G'), ('\u011D', .circumflex, 'g'),
    ('\u0124', .circumflex, 'H'), ('\u0125', .circumflex, 'h'), ('\u0128', .tilde, 'I'),
    ('\u0129', .tilde, 'i'), ('\u0134', .circumflex, 'J'), ('\u0135', .circumflex, 'j'),
    ('\u0139', .acute, 'L'), ('\u013A', .acute, 'l'), ('\u0143', .acute, 'N'),
    ('\u0144', .acute, 'n'), ('\u0154', .acute, 'R'), ('\u0155', .acute, 'r'),
    ('\u015A', .acute, 'S'), ('\u015B', .acute, 's'), ('\u015C', .circumflex, 'S'),
    ('\u015D', .circumflex, 's'), ('\u0168', .tilde, 'U'), ('\u0169', .tilde, 'u'),
    ('\u0174', .circumflex, 'W'), ('\u0175', .circumflex, 'w'),
    ('\u0176', .circumflex, 'Y'), ('\u0177', .circumflex, 'y'),
    ('\u0178', .diaeresis, 'Y'), ('\u0179', .acute, 'Z'), ('\u017A', .acute, 'z'),
    ('\u01F4', .acute, 'G'), ('\u01F5', .acute, 'g'), ('\u01F8', .grave, 'N'),
    ('\u01F9', .grave, 'n'), ('\u1E26', .diaeresis, 'H'), ('\u1E27', .diaeresis, 'h'),
    ('\u1E3E', .acute, 'M'), ('\u1E3F', .acute, 'm'), ('\u1E54', .acute, 'P'),
    ('\u1E55', .acute, 'p'), ('\u1E7C', .tilde, 'V'), ('\u1E7D', .tilde, 'v'),
    ('\u1E80', .grave, 'W'), ('\u1E81', .grave, 'w'), ('\u1E82', .acute, 'W'),
    ('\u1E83', .acute, 'w'), ('\u1E84', .diaeresis, 'W'), ('\u1E85', .diaeresis, 'w'),
    ('\u1E8C', .diaeresis, 'X'), ('\u1E8D', .diaeresis, 'x'),
    ('\u1E90', .circumflex, 'Z'), ('\u1E91', .circumflex, 'z'),
    ('\u1E97', .diaeresis, 't'), ('\u1EBC', .tilde, 'E'), ('\u1EBD', .tilde, 'e'),
    ('\u1EF2', .grave, 'Y'), ('\u1EF3', .grave, 'y'), ('\u1EF8', .tilde, 'Y'),
    ('\u1EF9', .tilde, 'y')
  ]

/-- The accent and base letter of an accented letter. -/
def parts? (c : Char) : Option (Accent × Char) :=
  table.lookup c

/-- The characters to type for an accented letter: accent first, then base. -/
def decompose? (c : Char) : Option (List Char) :=
  (parts? c).map fun parts => [parts.1.character, parts.2]

end Composition

end RemoteInput
