import RemoteInput.Proofs.Text.Numeral
import RemoteInput.Request.Arguments

/-!
# Which arguments are numbers

The arguments of a swipe are five numerals, and those of a key command begin with
one.  `Spelled` says for each which words write which arguments, without the order
in which the fields are read and refused, and the arguments that are read are those
that are spelled.
-/

namespace RemoteInput

namespace Request

theorem bind_eq_ok_iff {α β : Type} {first : Except Refusal α}
    {next : α → Except Refusal β} {result : β} :
    first >>= next = .ok result ↔ ∃ value, first = .ok value ∧ next value = .ok result := by
  cases first with
  | ok value => simp [bind, Except.bind]
  | error refusal => simp [bind, Except.bind]

theorem noMore_eq_ok_iff {words : List (List Char)} {value : Unit} :
    noMore words = .ok value ↔ words = [] := by
  cases words <;> simp [noMore]

theorem field_int32_eq_ok_iff {refusal : Refusal} {word : List Char} {value : Int32} :
    field Text.int32? refusal word = .ok value ↔ Text.Numeral word value.toInt := by
  rw [← Text.int32?_eq_some_iff]
  unfold field
  cases Text.int32? word <;> simp

/-! ## Swipes -/

/-- The words that spell a swipe: five numerals, one for each of its numbers. -/
inductive Swipe.Spelled : List (List Char) → Swipe → Prop where
  | numerals {x1 y1 x2 y2 duration : List Char} {swipe : Swipe}
      (first : Text.Numeral x1 swipe.x1.toInt) (second : Text.Numeral y1 swipe.y1.toInt)
      (third : Text.Numeral x2 swipe.x2.toInt) (fourth : Text.Numeral y2 swipe.y2.toInt)
      (fifth : Text.Numeral duration swipe.duration.toInt) :
      Swipe.Spelled [x1, y1, x2, y2, duration] swipe

theorem Swipe.ofArguments_eq_ok_iff {arguments : String} {swipe : Swipe} :
    Swipe.ofArguments arguments = .ok swipe ↔
      Swipe.Spelled (Text.words arguments.toList) swipe := by
  unfold Swipe.ofArguments
  generalize Text.words arguments.toList = words
  constructor
  · intro read
    split at read
    · simp only [bind_eq_ok_iff, coordinate, field_int32_eq_ok_iff, noMore_eq_ok_iff,
        Except.ok.injEq] at read
      obtain ⟨_, first, _, second, _, third, _, fourth, _, fifth, _, rfl, rfl⟩ := read
      exact .numerals first second third fourth fifth
    · cases read
  · intro spelled
    cases spelled with
    | numerals first second third fourth fifth =>
        simp only [bind_eq_ok_iff, coordinate, field_int32_eq_ok_iff, noMore_eq_ok_iff,
          Except.ok.injEq]
        exact ⟨_, first, _, second, _, third, _, fourth, _, fifth, (), trivial, rfl⟩

/-! ## Keys -/

/-- The words that spell a key command: a numeral for the key, and a word for what
happens to it, which may be left out. -/
inductive KeyPress.Spelled : List (List Char) → KeyPress → Prop where
  | both {code : List Char} {key : KeyCode} (numeral : Text.Numeral code key.value.toInt) :
      KeyPress.Spelled [code] { code := key, action := .both }
  | action {code : List Char} {key : KeyCode} (numeral : Text.Numeral code key.value.toInt)
      (word : List Char) :
      KeyPress.Spelled [code, word] { code := key, action := .ofWord (String.ofList word) }

theorem KeyPress.ofArguments_eq_ok_iff {arguments : String} {key : KeyPress} :
    KeyPress.ofArguments arguments = .ok key ↔
      KeyPress.Spelled (Text.words arguments.toList) key := by
  unfold KeyPress.ofArguments
  generalize Text.words arguments.toList = words
  constructor
  · intro read
    split at read
    · cases read
    · next code rest =>
      rw [bind_eq_ok_iff] at read
      obtain ⟨value, numeral, read⟩ := read
      rw [field_int32_eq_ok_iff] at numeral
      cases rest with
      | nil =>
          cases read
          exact .both numeral
      | cons word rest =>
          simp only [bind_eq_ok_iff, noMore_eq_ok_iff, Except.ok.injEq] at read
          obtain ⟨_, rfl, rfl⟩ := read
          exact .action numeral word
  · intro spelled
    cases spelled with
    | both numeral => exact bind_eq_ok_iff.mpr ⟨_, field_int32_eq_ok_iff.mpr numeral, rfl⟩
    | action numeral word =>
        exact bind_eq_ok_iff.mpr ⟨_, field_int32_eq_ok_iff.mpr numeral, rfl⟩

/-! ## Which arguments are read -/

/-- A numeral whose value fits thirty-two bits. -/
def IsInt32 (word : List Char) : Prop :=
  ∃ value, Text.Numeral word value ∧ -2 ^ 31 ≤ value ∧ value < 2 ^ 31

theorem isInt32_of_numeral {word : List Char} {value : Int32}
    (numeral : Text.Numeral word value.toInt) : IsInt32 word :=
  ⟨value.toInt, numeral, value.le_toInt, value.toInt_lt⟩

theorem IsInt32.numeral {word : List Char} (isInt32 : IsInt32 word) :
    ∃ value : Int32, Text.Numeral word value.toInt := by
  obtain ⟨value, numeral, low, high⟩ := isInt32
  obtain ⟨read, isRead, _⟩ := Text.int32?_of_numeral numeral low high
  exact ⟨read, Text.int32?_eq_some_iff.mp isRead⟩

theorem Swipe.exists_spelled_iff {words : List (List Char)} :
    (∃ swipe, Swipe.Spelled words swipe) ↔
      words.length = 5 ∧ ∀ word ∈ words, IsInt32 word := by
  constructor
  · rintro ⟨swipe, spelled⟩
    cases spelled with
    | numerals first second third fourth fifth =>
        refine ⟨rfl, ?_⟩
        simp only [List.forall_mem_cons]
        exact ⟨isInt32_of_numeral first, isInt32_of_numeral second, isInt32_of_numeral third,
          isInt32_of_numeral fourth, isInt32_of_numeral fifth, nofun⟩
  · rintro ⟨five, fit⟩
    match words, five with
    | [_, _, _, _, _], _ =>
        simp only [List.forall_mem_cons] at fit
        obtain ⟨first, second, third, fourth, fifth, _⟩ := fit
        obtain ⟨x1, first⟩ := first.numeral
        obtain ⟨y1, second⟩ := second.numeral
        obtain ⟨x2, third⟩ := third.numeral
        obtain ⟨y2, fourth⟩ := fourth.numeral
        obtain ⟨duration, fifth⟩ := fifth.numeral
        exact ⟨⟨x1, y1, x2, y2, duration⟩, .numerals first second third fourth fifth⟩

theorem KeyPress.exists_spelled_iff {words : List (List Char)} :
    (∃ key, KeyPress.Spelled words key) ↔
      ∃ code rest, words = code :: rest ∧ rest.length ≤ 1 ∧ IsInt32 code := by
  constructor
  · rintro ⟨key, spelled⟩
    cases spelled with
    | both numeral => exact ⟨_, [], rfl, by decide, isInt32_of_numeral numeral⟩
    | action numeral word => exact ⟨_, [word], rfl, by simp, isInt32_of_numeral numeral⟩
  · rintro ⟨code, rest, rfl, short, isInt32⟩
    obtain ⟨value, numeral⟩ := isInt32.numeral
    match rest, short with
    | [], _ => exact ⟨⟨⟨value⟩, .both⟩, .both numeral⟩
    | [word], _ => exact ⟨⟨⟨value⟩, .ofWord (String.ofList word)⟩, .action numeral word⟩

/-! ## Decimal texts -/

/-- The decimal text of a number. -/
def decimalWord (value : Int32) : List Char :=
  (Text.decimal value.toInt).toList

theorem numeral_decimalWord (value : Int32) :
    Text.Numeral (decimalWord value) value.toInt :=
  Text.numeral_decimal value.toInt

theorem words_of_decimals {values : List Int32} {text : List Char}
    (spaced : Text.Spaced (values.map decimalWord) text) :
    Text.words text = values.map decimalWord := by
  apply Text.words_of_spaced spaced
  intro word member
  obtain ⟨value, _, rfl⟩ := List.mem_map.mp member
  exact (numeral_decimalWord value).solid

/-- A swipe is read from five words if all of them are numerals of thirty-two bits, and
a key command from one word or two if the first of them is; the numbers are the values
of the numerals.  So numbers are read back from their decimal texts, whatever blanks
stand around these. -/
theorem numbers_are_read_exactly :
    (∀ arguments : String,
      ((∃ swipe, Swipe.ofArguments arguments = .ok swipe) ↔
        (Text.words arguments.toList).length = 5 ∧
          ∀ word ∈ Text.words arguments.toList, IsInt32 word) ∧
      ((∃ key, KeyPress.ofArguments arguments = .ok key) ↔
        ∃ code rest, Text.words arguments.toList = code :: rest ∧ rest.length ≤ 1 ∧
          IsInt32 code)) ∧
    (∀ (arguments : String) (swipe : Swipe),
      Swipe.ofArguments arguments = .ok swipe ↔
        Swipe.Spelled (Text.words arguments.toList) swipe) ∧
    (∀ (arguments : String) (key : KeyPress),
      KeyPress.ofArguments arguments = .ok key ↔
        KeyPress.Spelled (Text.words arguments.toList) key) ∧
    (∀ (x1 y1 x2 y2 duration : Int32) (arguments : String),
      Text.Spaced ([x1, y1, x2, y2, duration].map decimalWord) arguments.toList →
        Swipe.ofArguments arguments = .ok { x1, y1, x2, y2, duration }) ∧
    ∀ (code : Int32) (arguments : String),
      Text.Spaced ([code].map decimalWord) arguments.toList →
        KeyPress.ofArguments arguments = .ok { code := ⟨code⟩, action := .both } := by
  refine ⟨?_, ?_, ?_, ?_, ?_⟩
  · intro arguments
    simp only [Swipe.ofArguments_eq_ok_iff, KeyPress.ofArguments_eq_ok_iff]
    exact ⟨Swipe.exists_spelled_iff, KeyPress.exists_spelled_iff⟩
  · intro arguments swipe
    exact Swipe.ofArguments_eq_ok_iff
  · intro arguments key
    exact KeyPress.ofArguments_eq_ok_iff
  · intro x1 y1 x2 y2 duration arguments spaced
    rw [Swipe.ofArguments_eq_ok_iff, words_of_decimals spaced]
    exact .numerals (numeral_decimalWord x1) (numeral_decimalWord y1) (numeral_decimalWord x2)
      (numeral_decimalWord y2) (numeral_decimalWord duration)
  · intro code arguments spaced
    rw [KeyPress.ofArguments_eq_ok_iff, words_of_decimals spaced]
    have spelled : KeyPress.Spelled [decimalWord code] { code := ⟨code⟩, action := .both } :=
      .both (numeral_decimalWord code)
    exact spelled

/-- The least number and the greatest, with signs and zeros before them. -/
example :
    Swipe.ofArguments " -2147483648 +2147483647\t-0 007  300" =
      .ok { x1 := -2147483648, y1 := 2147483647, x2 := 0, y2 := 7, duration := 300 } := by
  decide

end Request

end RemoteInput
