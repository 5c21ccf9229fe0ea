import Mathlib.Data.List.DropRight
import Mathlib.Data.List.Forall2
import RemoteInput.Text.Blank

/-!
# Words

The words of a text are the pieces between its blanks that are not empty:
`words_eq_splitOnP`.  So a blank cuts a text into two texts whose words follow
one another, and the blanks around a text do not count.

A trimmed text begins and ends with a letter.  So a blank that stays in it has
words on both sides, and without one it is nothing but its words: `trim_cases`.
Words that are written with blanks between them are the words of that text:
`words_of_spaced`.
-/

namespace RemoteInput

namespace Text

/-- The graphic characters of ASCII are no blanks. -/
theorem isBlank_of_graphic {c : Char} (graphic : 0x20 < c.toNat ∧ c.toNat < 0x7F) :
    isBlank c = false := by
  obtain ⟨low, high⟩ := graphic
  simp [isBlank, inRanges, blankRanges]
  omega

private theorem wordsFrom_eq_splitOnPPrepend (current text : List Char) :
    wordsFrom current text =
      (text.splitOnPPrepend isBlank current).filter (!·.isEmpty) := by
  induction text generalizing current with
  | nil => cases current <;> simp [wordsFrom]
  | cons c rest induction =>
      by_cases blank : isBlank c = true
      · rw [List.splitOnPPrepend_cons_pos blank, List.splitOnP_eq_splitOnPPrepend]
        cases current <;> simp [wordsFrom, blank, induction]
      · simp [wordsFrom, blank, induction, List.splitOnPPrepend_cons_neg]

theorem words_eq_splitOnP (text : List Char) :
    words text = (text.splitOnP isBlank).filter (!·.isEmpty) :=
  wordsFrom_eq_splitOnPPrepend [] text

@[simp]
theorem words_nil : words [] = [] :=
  rfl

/-- A blank cuts a text into two; it belongs to neither. -/
theorem words_append_cons {c : Char} (blank : isBlank c = true)
    (left right : List Char) :
    words (left ++ c :: right) = words left ++ words right := by
  simp [words_eq_splitOnP, List.splitOnP_append_cons _ _ blank]

theorem words_cons {c : Char} (blank : isBlank c = true) (rest : List Char) :
    words (c :: rest) = words rest :=
  words_append_cons blank [] rest

theorem words_of_solid {text : List Char} (nonempty : text ≠ [])
    (solid : ∀ c ∈ text, isBlank c = false) :
    words text = [text] := by
  simp [words_eq_splitOnP, List.splitOnP_eq_singleton solid, nonempty]

private theorem wordsFrom_ne_nil {current : List Char} (nonempty : current ≠ [])
    (text : List Char) : wordsFrom current text ≠ [] := by
  induction text generalizing current with
  | nil => simp [wordsFrom, nonempty]
  | cons c rest induction =>
      by_cases blank : isBlank c = true
      · simp [wordsFrom, blank, nonempty]
      · have later : wordsFrom (c :: current) rest ≠ [] := induction (by simp)
        simpa [wordsFrom, blank] using later

/-- A text with a letter has a word. -/
theorem words_ne_nil {text : List Char} {c : Char} (letter : isBlank c = false)
    (member : c ∈ text) : words text ≠ [] := by
  induction text with
  | nil => simp at member
  | cons first rest induction =>
      by_cases blank : isBlank first = true
      · have isLater : c ∈ rest := by
          rcases List.mem_cons.mp member with same | later
          · simp [same, blank] at letter
          · exact later
        rw [words_cons blank]
        exact induction isLater
      · have later : wordsFrom [first] rest ≠ [] := wordsFrom_ne_nil (by simp) rest
        simpa [words, wordsFrom, blank] using later

/-! ## Trimming -/

theorem words_trimLeft (text : List Char) : words (trimLeft text) = words text := by
  induction text with
  | nil => rfl
  | cons c rest induction =>
      by_cases blank : isBlank c = true
      · rw [words_cons blank, ← induction]
        simp [trimLeft, blank]
      · simp [trimLeft, blank]

theorem words_trimRight (text : List Char) : words (trimRight text) = words text := by
  change words (text.rdropWhile isBlank) = words text
  induction text using List.reverseRecOn with
  | nil => rfl
  | append_singleton rest c induction =>
      by_cases blank : isBlank c = true
      · rw [List.rdropWhile_concat_pos _ _ _ blank, induction,
          words_append_cons blank, words_nil, List.append_nil]
      · rw [List.rdropWhile_concat_neg _ _ _ blank]

/-- The blanks around a text do not count. -/
@[simp]
theorem words_trim (text : List Char) : words (trim text) = words text := by
  rw [trim, words_trimRight, words_trimLeft]

theorem head_trim {text rest : List Char} {c : Char} (trimmed : trim text = c :: rest) :
    isBlank c = false := by
  have isPrefix : trim text <+: trimLeft text := List.rdropWhile_prefix isBlank _
  rw [trimmed] at isPrefix
  obtain ⟨blanks, same⟩ := isPrefix
  have begins := List.head?_dropWhile_not isBlank text
  have dropped : text.dropWhile isBlank = c :: rest ++ blanks := same.symm
  simpa [dropped] using begins

theorem last_trim {text rest : List Char} {c : Char} (trimmed : trim text = rest ++ [c]) :
    isBlank c = false := by
  have ends := List.rdropWhile_last_not isBlank (trimLeft text)
  have dropped : (trimLeft text).rdropWhile isBlank = rest ++ [c] := trimmed
  simpa [dropped] using ends

theorem trim_trim (text : List Char) : trim (trim text) = trim text := by
  have kept : trimLeft (trim text) = trim text := by
    cases trimmed : trim text with
    | nil => rfl
    | cons c rest => simp [trimLeft, head_trim trimmed]
  rw [trim, kept]
  exact List.rdropWhile_idempotent isBlank (trimLeft text)

/-- A blank in the middle of a trimmed text has words on both sides. -/
private theorem two_words_of_blank {text : List Char} {c : Char}
    (blank : isBlank c = true) (member : c ∈ trim text) :
    2 ≤ (words text).length := by
  obtain ⟨left, right, trimmed⟩ := List.append_of_mem member
  have before : words left ≠ [] := by
    cases left with
    | nil => simp [head_trim trimmed] at blank
    | cons first left => exact words_ne_nil (head_trim trimmed) List.mem_cons_self
  have after : words right ≠ [] := by
    cases right using List.reverseRecOn with
    | nil => simp [last_trim trimmed] at blank
    | append_singleton right last =>
        have letter : isBlank last = false := last_trim (by
          rw [trimmed, ← List.cons_append, ← List.append_assoc])
        exact words_ne_nil letter (by simp)
  have apart : words text = words left ++ words right := by
    rw [← words_trim, trimmed, words_append_cons blank]
  have first := List.length_pos_of_ne_nil before
  have second := List.length_pos_of_ne_nil after
  rw [apart, List.length_append]
  omega

/-- A trimmed text is its words if they are one at most; otherwise it keeps a
blank between them. -/
theorem trim_cases (text : List Char) :
    (words text).length ≤ 1 ∧ trim text = (words text).flatten ∨
      2 ≤ (words text).length ∧ ∃ c ∈ trim text, isBlank c = true := by
  by_cases solid : ∀ c ∈ trim text, isBlank c = false
  · left
    by_cases empty : trim text = []
    · simp [← words_trim text, empty]
    · simp [← words_trim text, words_of_solid empty solid]
  · right
    simp only [not_forall, Bool.not_eq_false] at solid
    obtain ⟨c, member, blank⟩ := solid
    exact ⟨two_words_of_blank blank member, c, member, blank⟩

/-- What is trimmed already stays as it is. -/
theorem trim_eq_self_iff {text : List Char} :
    trim text = text ↔
      (∀ c ∈ text.head?, isBlank c = false) ∧ ∀ c ∈ text.getLast?, isBlank c = false := by
  constructor
  · intro trimmed
    constructor
    · intro c first
      obtain ⟨rest, parts⟩ := List.head?_eq_some_iff.mp first
      exact head_trim (trimmed.trans parts)
    · intro c last
      obtain ⟨rest, parts⟩ := List.getLast?_eq_some_iff.mp last
      exact last_trim (trimmed.trans parts)
  · rintro ⟨begins, ends⟩
    have left : trimLeft text = text := by
      cases text with
      | nil => rfl
      | cons c rest => simp [trimLeft, begins c rfl]
    rw [trim, left]
    apply List.rdropWhile_eq_self_iff.mpr
    intro nonempty
    simp [ends _ (List.getLast?_eq_some_getLast nonempty)]

theorem trim_of_solid {text : List Char} (solid : ∀ c ∈ text, isBlank c = false) :
    trim text = text := by
  by_cases empty : text = []
  · rw [empty]
    rfl
  · have one := words_of_solid empty solid
    rcases trim_cases text with ⟨_, trimmed⟩ | ⟨several, _⟩
    · simp [trimmed, one]
    · simp [one] at several

/-! ## The first word -/

/-- A word: letters, and no blank among them. -/
structure Solid (word : List Char) : Prop where
  nonempty : word ≠ []
  solid : ∀ c ∈ word, isBlank c = false

/-- The first word of a text that has words. -/
theorem solid_cutAtBlank {text : List Char} (nonempty : trim text ≠ []) :
    Solid (cutAtBlank (trim text)).1 := by
  obtain ⟨first, others, trimmed⟩ := List.exists_cons_of_ne_nil nonempty
  constructor
  · simp [cutAtBlank, trimmed, head_trim trimmed]
  · intro c member
    simpa using List.mem_takeWhile_imp member

/-- The first word of a trimmed text is what stands before its first blank. -/
theorem words_of_cut {text : List Char} (nonempty : trim text ≠ []) :
    words text = (cutAtBlank (trim text)).1 :: words (cutAtBlank (trim text)).2 := by
  let keyword := (trim text).takeWhile (!isBlank ·)
  let rest := (trim text).dropWhile (!isBlank ·)
  have parts : trim text = keyword ++ rest := List.takeWhile_append_dropWhile.symm
  have word : Solid keyword := solid_cutAtBlank nonempty
  change words text = keyword :: words rest
  rw [← words_trim, parts]
  cases isRest : rest with
  | nil => simp [words_of_solid word.nonempty word.solid]
  | cons c later =>
      have blank : isBlank c = true := by
        have ends := List.head?_dropWhile_not (!isBlank ·) (trim text)
        have dropped : (trim text).dropWhile (!isBlank ·) = c :: later := isRest
        simpa [dropped] using ends
      rw [words_append_cons blank, words_of_solid word.nonempty word.solid, words_cons blank,
        List.singleton_append]

/-! ## Words and the blanks around them -/

/-- Nothing but blanks. -/
def Blank (text : List Char) : Prop :=
  ∀ c ∈ text, isBlank c = true

/-- A text in which words follow one another, with blanks before, between and after
them. -/
inductive Spaced : List (List Char) → List Char → Prop where
  | nil {blanks : List Char} (blank : Blank blanks) : Spaced [] blanks
  | cons {blanks word rest : List Char} {words : List (List Char)} (blank : Blank blanks)
      (spaced : Spaced words rest)
      (apart : words ≠ [] → ∃ c ∈ rest.head?, isBlank c = true) :
      Spaced (word :: words) (blanks ++ (word ++ rest))

theorem words_of_blank {blanks : List Char} (blank : Blank blanks) (text : List Char) :
    words (blanks ++ text) = words text := by
  induction blanks with
  | nil => rfl
  | cons c rest induction =>
      rw [List.cons_append, words_cons (blank c List.mem_cons_self)]
      exact induction fun other member => blank other (List.mem_cons_of_mem _ member)

theorem words_of_solid_append {word rest : List Char} (solid : Solid word)
    (apart : ∀ c ∈ rest.head?, isBlank c = true) :
    words (word ++ rest) = word :: words rest := by
  cases rest with
  | nil => rw [List.append_nil, words_of_solid solid.nonempty solid.solid, words_nil]
  | cons c rest =>
      have blank := apart c rfl
      rw [words_append_cons blank, words_of_solid solid.nonempty solid.solid, words_cons blank,
        List.singleton_append]

/-- The words of a text are those that follow one another in it. -/
theorem words_of_spaced {words : List (List Char)} {text : List Char}
    (spaced : Spaced words text) (solid : ∀ word ∈ words, Solid word) :
    Text.words text = words := by
  induction spaced with
  | nil blank =>
      rw [← words_nil, ← words_of_blank blank [], List.append_nil]
  | @cons blanks word rest words blank spaced apart induction =>
      have later := induction fun other member => solid other (List.mem_cons_of_mem _ member)
      rw [words_of_blank blank, words_of_solid_append (solid word List.mem_cons_self), later]
      intro c first
      by_cases more : words = []
      · subst more
        cases spaced with
        | nil blank => exact blank c (List.mem_of_head? first)
      · obtain ⟨other, isFirst, blank⟩ := apart more
        rw [Option.mem_unique first isFirst]
        exact blank

/-- Blanks around a word are trimmed. -/
theorem trim_of_blank {before word after : List Char} (blankBefore : Blank before)
    (solid : Solid word) (blankAfter : Blank after) : trim (before ++ (word ++ after)) = word := by
  have one : words (before ++ (word ++ after)) = [word] := by
    rw [words_of_blank blankBefore,
      words_of_solid_append solid fun c first => blankAfter c (List.mem_of_head? first),
      ← List.append_nil after, words_of_blank blankAfter, words_nil]
  rcases trim_cases (before ++ (word ++ after)) with ⟨_, trimmed⟩ | ⟨several, _⟩
  · rw [trimmed, one, List.flatten_singleton]
  · rw [one] at several
    simp at several

/-- What is trimmed away is blanks. -/
theorem exists_blanks (text : List Char) :
    ∃ before after, Blank before ∧ Blank after ∧ text = before ++ (trim text ++ after) := by
  refine ⟨text.takeWhile isBlank, (trimLeft text).rtakeWhile isBlank, ?_, ?_, ?_⟩
  · exact fun c member => List.mem_takeWhile_imp member
  · exact fun c member => List.mem_rtakeWhile_imp member
  · have left : text.takeWhile isBlank ++ trimLeft text = text :=
      List.takeWhile_append_dropWhile
    have right : trim text ++ (trimLeft text).rtakeWhile isBlank = trimLeft text :=
      List.rdropWhile_append_rtakeWhile
    rw [right, left]

/-! ## A word before a text -/

theorem cutAtBlank_append {word rest : List Char} (solid : Solid word)
    (apart : ∀ c ∈ rest.head?, isBlank c = true) : cutAtBlank (word ++ rest) = (word, rest) := by
  have letters : ∀ c ∈ word, (!isBlank c) = true := by
    intro c member
    simp [solid.solid c member]
  rw [cutAtBlank, List.takeWhile_append_of_pos letters, List.dropWhile_append_of_pos letters]
  cases rest with
  | nil => simp
  | cons c rest => simp [apart c rfl]

theorem trim_append_cons {word text : List Char} (solid : Solid word) (trimmed : trim text = text)
    (nonempty : text ≠ []) {blank : Char} :
    trim (word ++ blank :: text) = word ++ blank :: text := by
  obtain ⟨_, ends⟩ := trim_eq_self_iff.mp trimmed
  apply trim_eq_self_iff.mpr
  constructor
  · intro c first
    rw [List.head?_append_of_ne_nil _ solid.nonempty] at first
    exact solid.solid c (List.mem_of_head? first)
  · intro c last
    apply ends
    have isLast := List.getLast?_eq_some_getLast nonempty
    simpa [List.getLast?_append, List.getLast?_cons, isLast] using last

/-- A word and a trimmed text after it are cut apart again. -/
theorem cutAtBlank_trim {word text : List Char} (solid : Solid word) (trimmed : trim text = text)
    {blank : Char} (isBlank : isBlank blank = true) :
    ∃ rest, cutAtBlank (trim (word ++ blank :: text)) = (word, rest) ∧ trim rest = text := by
  by_cases empty : text = []
  · have blankAfter : Blank [blank] := by simp [Blank, isBlank]
    have alone := @trim_of_blank [] word [blank] nofun solid blankAfter
    have whole := @cutAtBlank_append word [] solid nofun
    rw [List.append_nil] at whole
    rw [empty]
    exact ⟨[], (congrArg cutAtBlank alone).trans whole, rfl⟩
  · have whole := @cutAtBlank_append word (blank :: text) solid (by simp [isBlank])
    have dropped : trim (blank :: text) = trim text := by simp [trim, trimLeft, isBlank]
    refine ⟨blank :: text, ?_, dropped.trans trimmed⟩
    rw [trim_append_cons solid trimmed empty, whole]

/-! ## Letter case -/

private theorem toUpper_of_isBlank {c : Char} (blank : isBlank c = true) : c.toUpper = c := by
  unfold Char.toUpper
  rw [dif_neg]
  rintro ⟨low, high⟩
  have above : 0x61 ≤ c.toNat := UInt32.le_iff_toNat_le.mp low
  have below : c.toNat ≤ 0x7A := UInt32.le_iff_toNat_le.mp high
  simp [isBlank, inRanges, blankRanges] at blank
  omega

/-- Letter case makes no blank. -/
theorem solid_of_upper {text : List Char} (solid : ∀ c ∈ upper text, isBlank c = false) :
    ∀ c ∈ text, isBlank c = false := by
  intro c member
  by_contra blank
  rw [Bool.not_eq_false] at blank
  have same := toUpper_of_isBlank blank
  have inUpper : c ∈ upper text := List.mem_map.mpr ⟨c, member, same⟩
  rw [solid c inUpper] at blank
  cases blank

/-- A text that spells a name in letters of either case: where the name has a small
letter, the text may have its capital. -/
def AnyCase (text name : List Char) : Prop :=
  List.Forall₂ (fun c letter => c = letter ∨ c.isUpper ∧ c.toNat + 0x20 = letter.toNat)
    text name

private theorem toNat_toLower_of_isUpper {c : Char} (isUpper : c.isUpper = true) :
    c.toLower.toNat = c.toNat + 0x20 := by
  obtain ⟨low, high⟩ := of_decide_eq_true isUpper
  have below : c.val.toNat ≤ 0x5A := UInt32.le_iff_toNat_le.mp high
  have inside : c.val.toNat + 0x20 < UInt32.size :=
    Nat.lt_of_le_of_lt (Nat.add_le_add_right below _) (by decide)
  calc
    c.toLower.toNat = (c.val + 0x20).toNat := congrArg Char.toNat (dif_pos ⟨low, high⟩)
    _ = (c.val.toNat + 0x20) % UInt32.size := UInt32.toNat_add _ _
    _ = c.toNat + 0x20 := Nat.mod_eq_of_lt inside

private theorem toLower_of_not_isUpper {c : Char} (notUpper : c.isUpper = false) :
    c.toLower = c :=
  dif_neg (of_decide_eq_false notUpper)

private theorem toLower_eq_iff {c letter : Char} (small : letter.toLower = letter) :
    c.toLower = letter ↔ c = letter ∨ c.isUpper ∧ c.toNat + 0x20 = letter.toNat := by
  cases isUpper : c.isUpper with
  | false => simp [toLower_of_not_isUpper isUpper]
  | true =>
      have differ : c ≠ letter := by
        rintro rfl
        have capital := toNat_toLower_of_isUpper isUpper
        rw [small] at capital
        omega
      rw [← Char.toNat_inj, toNat_toLower_of_isUpper isUpper]
      simp [differ]

/-- What is a name in lower case spells it in letters of either case. -/
theorem lower_eq_iff {text name : List Char} (small : lower name = name) :
    lower text = name ↔ AnyCase text name := by
  induction text generalizing name with
  | nil => cases name <;> simp [lower, AnyCase]
  | cons c rest induction =>
      cases name with
      | nil => simp [lower, AnyCase]
      | cons letter later =>
          obtain ⟨smallLetter, smallLater⟩ := List.cons.inj small
          have isLetter := toLower_eq_iff (c := c) smallLetter
          have isRest := induction smallLater
          unfold lower AnyCase at *
          rw [List.map_cons, List.cons.injEq, List.forall₂_cons, isLetter, isRest]

end Text

end RemoteInput
