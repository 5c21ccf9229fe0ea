/-!
# Blanks, trimming and words

Lines of the protocol are cut at blanks: the characters with the Unicode
property `White_Space`.  This file holds the property, trimming at either end,
the list of words of a text, and the cut at the first blank that separates a
keyword from its arguments.  Letter case is folded for ASCII letters only.
-/

namespace RemoteInput

namespace Text

/-- Membership of a code point in a table of closed ranges. -/
def inRanges (ranges : List (Nat × Nat)) (code : Nat) : Bool :=
  ranges.any fun range => range.1 ≤ code && code ≤ range.2

/-- The code points with the property `White_Space`, as closed ranges. -/
def blankRanges : List (Nat × Nat) :=
  [(0x09, 0x0D), (0x20, 0x20), (0x85, 0x85), (0xA0, 0xA0), (0x1680, 0x1680),
    (0x2000, 0x200A), (0x2028, 0x2029), (0x202F, 0x202F), (0x205F, 0x205F),
    (0x3000, 0x3000)]

/-- A blank has the property `White_Space`. -/
def isBlank (c : Char) : Bool :=
  inRanges blankRanges c.toNat

/-- Drops the blanks at the start. -/
def trimLeft (text : List Char) : List Char :=
  text.dropWhile isBlank

/-- Drops the blanks at the end. -/
def trimRight (text : List Char) : List Char :=
  (text.reverse.dropWhile isBlank).reverse

/-- Drops the blanks at both ends. -/
def trim (text : List Char) : List Char :=
  trimRight (trimLeft text)

/-- Collects words from left to right; `current` holds the letters of the word
under way, last letter first. -/
def wordsFrom (current : List Char) : List Char → List (List Char)
  | [] => if current.isEmpty then [] else [current.reverse]
  | c :: rest =>
      if isBlank c then
        if current.isEmpty then
          wordsFrom [] rest
        else
          current.reverse :: wordsFrom [] rest
      else
        wordsFrom (c :: current) rest

/-- The maximal runs of characters that are not blanks, from left to right. -/
def words (text : List Char) : List (List Char) :=
  wordsFrom [] text

/-- The text before the first blank, and the text from that blank on. -/
def cutAtBlank (text : List Char) : List Char × List Char :=
  (text.takeWhile (fun c => !isBlank c), text.dropWhile (fun c => !isBlank c))

/-- Upper case for ASCII letters; every other character stays. -/
def upper (text : List Char) : List Char :=
  text.map Char.toUpper

/-- Lower case for ASCII letters; every other character stays. -/
def lower (text : List Char) : List Char :=
  text.map Char.toLower

end Text

end RemoteInput
