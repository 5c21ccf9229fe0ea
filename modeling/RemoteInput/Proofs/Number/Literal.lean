import RemoteInput.Number.Literal
import RemoteInput.Proofs.Text.Numeral

/-!
# What literals are read

`Literal` is the grammar of the texts of single-precision numbers: a sign or none, and
then digits with a point or an exponent or neither, or one of three words.  A text is
read as a number just if it is a literal: `isSome_ofLiteral?_iff`.
-/

namespace RemoteInput

namespace Binary32

/-- An exponent, which may be absent. -/
inductive Exponent : List Char → Prop where
  | absent : Exponent []
  | scale {letter : Char} {text : List Char} {value : Int}
      (isLetter : letter = 'e' ∨ letter = 'E') (numeral : Text.Numeral text value) :
      Exponent (letter :: text)

/-- Digits with at most one point before, among or after them, and an exponent. -/
inductive Decimal.Spelled : List Char → Prop where
  | whole {digits exponent : List Char} (areDigits : Text.Digits digits)
      (isExponent : Exponent exponent) : Decimal.Spelled (digits ++ exponent)
  | point {whole fraction exponent : List Char} (areDigits : Text.Digits (whole ++ fraction))
      (isExponent : Exponent exponent) :
      Decimal.Spelled (whole ++ '.' :: (fraction ++ exponent))

/-- The words for what is no finite number. -/
def words : List (List Char) :=
  ["nan".toList, "inf".toList, "infinity".toList]

/-- A literal without sign. -/
inductive Magnitude : List Char → Prop where
  | decimal {text : List Char} (spelled : Decimal.Spelled text) : Magnitude text
  | word {text name : List Char} (isWord : name ∈ words) (spelled : Text.AnyCase text name) :
      Magnitude text

inductive Literal : List Char → Prop where
  | unsigned {text : List Char} (magnitude : Magnitude text) : Literal text
  | plus {text : List Char} (magnitude : Magnitude text) : Literal ('+' :: text)
  | minus {text : List Char} (magnitude : Magnitude text) : Literal ('-' :: text)

/-! ## Exponents -/

theorem isSome_exponent?_iff {text : List Char} :
    (exponent? text).isSome ↔ Exponent text := by
  constructor
  · intro read
    unfold exponent? at read
    split at read
    · exact .absent
    · obtain ⟨value, numeral⟩ := Text.isSome_exponent?_iff.mp read
      exact .scale (.inl rfl) numeral
    · obtain ⟨value, numeral⟩ := Text.isSome_exponent?_iff.mp read
      exact .scale (.inr rfl) numeral
    · cases read
  · intro isExponent
    cases isExponent with
    | absent => rfl
    | scale isLetter numeral =>
        have read := Text.isSome_exponent?_iff.mpr ⟨_, numeral⟩
        rcases isLetter with rfl | rfl
        · exact read
        · exact read

/-- An exponent begins with no digit and with no point. -/
private theorem Exponent.apart {text : List Char} (isExponent : Exponent text) :
    ∀ c ∈ text.head?, c.isDigit = false ∧ c ≠ '.' := by
  cases isExponent with
  | absent => exact nofun
  | scale isLetter numeral =>
      rintro c ⟨⟩
      rcases isLetter with rfl | rfl
      · decide
      · decide

/-! ## Decimal texts -/

private theorem cut_digits {digits rest : List Char} (areDigits : ∀ c ∈ digits, c.isDigit = true)
    (apart : ∀ c ∈ rest.head?, c.isDigit = false) :
    (digits ++ rest).takeWhile Char.isDigit = digits ∧
      (digits ++ rest).dropWhile Char.isDigit = rest := by
  rw [List.takeWhile_append_of_pos areDigits, List.dropWhile_append_of_pos areDigits]
  cases rest with
  | nil => simp
  | cons c rest => simp [apart c rfl]

/-- What digits with a point or none, and an exponent, are read as. -/
inductive Decimal.Reads : List Char → Decimal → Prop where
  | whole {digits exponent : List Char} {scale : Int} (areDigits : Text.Digits digits)
      (isScale : exponent? exponent = some scale) :
      Decimal.Reads (digits ++ exponent) (.ofDigits digits [] scale)
  | point {whole fraction exponent : List Char} {scale : Int}
      (areDigits : Text.Digits (whole ++ fraction)) (isScale : exponent? exponent = some scale) :
      Decimal.Reads (whole ++ '.' :: (fraction ++ exponent)) (.ofDigits whole fraction scale)

private theorem Decimal.spelled_iff {text : List Char} :
    Spelled text ↔ ∃ decimal, Reads text decimal := by
  constructor
  · rintro (⟨areDigits, isExponent⟩ | ⟨areDigits, isExponent⟩)
    · obtain ⟨scale, isScale⟩ := Option.isSome_iff_exists.mp (isSome_exponent?_iff.mpr isExponent)
      exact ⟨_, .whole areDigits isScale⟩
    · obtain ⟨scale, isScale⟩ := Option.isSome_iff_exists.mp (isSome_exponent?_iff.mpr isExponent)
      exact ⟨_, .point areDigits isScale⟩
  · rintro ⟨decimal, reads⟩
    cases reads with
    | whole areDigits isScale =>
        exact .whole areDigits (isSome_exponent?_iff.mp (Option.isSome_of_eq_some isScale))
    | point areDigits isScale =>
        exact .point areDigits (isSome_exponent?_iff.mp (Option.isSome_of_eq_some isScale))

/-- Digits and an exponent are read just if there are digits. -/
private theorem ofDigits_eq_some_iff {whole fraction rest : List Char} {decimal : Decimal}
    (wholeDigits : ∀ c ∈ whole, c.isDigit = true)
    (fractionDigits : ∀ c ∈ fraction, c.isDigit = true) :
    (if whole.isEmpty && fraction.isEmpty then none else do
        let exponent ← exponent? rest
        some (Decimal.ofDigits whole fraction exponent)) = some decimal ↔
      Text.Digits (whole ++ fraction) ∧
        ∃ scale, exponent? rest = some scale ∧ .ofDigits whole fraction scale = decimal := by
  split
  · next empty =>
    have none : ¬ Text.Digits (whole ++ fraction) := by
      intro digits
      exact digits.nonempty (by simpa using empty)
    simp [none]
  · next nonempty =>
    have digits : Text.Digits (whole ++ fraction) :=
      ⟨by simpa using nonempty, List.forall_mem_append.mpr ⟨wholeDigits, fractionDigits⟩⟩
    cases exponent? rest <;> simp [digits]

private theorem mem_takeWhile_isDigit (text : List Char) :
    ∀ c ∈ text.takeWhile Char.isDigit, c.isDigit = true :=
  fun _ member => List.mem_takeWhile_imp member

theorem decimal?_eq_some_iff {text : List Char} {decimal : Decimal} :
    decimal? text = some decimal ↔ Decimal.Reads text decimal := by
  constructor
  · intro read
    have parts : text.takeWhile Char.isDigit ++ text.dropWhile Char.isDigit = text :=
      List.takeWhile_append_dropWhile
    have wholeDigits := mem_takeWhile_isDigit text
    unfold decimal? at read
    split at read
    next fraction rest cut =>
    split at cut
    · next later dropped =>
      cases cut
      obtain ⟨areDigits, scale, isScale, rfl⟩ :=
        (ofDigits_eq_some_iff wholeDigits (mem_takeWhile_isDigit later)).mp read
      have reads := Decimal.Reads.point areDigits isScale
      rwa [List.takeWhile_append_dropWhile, ← dropped, parts] at reads
    · cases cut
      obtain ⟨areDigits, scale, isScale, rfl⟩ :=
        (ofDigits_eq_some_iff wholeDigits (List.forall_mem_nil _)).mp read
      rw [List.append_nil] at areDigits
      have reads := Decimal.Reads.whole areDigits isScale
      rwa [parts] at reads
  · intro reads
    cases reads with
    | @whole digits exponent scale areDigits isScale =>
        have apart := (isSome_exponent?_iff.mp (Option.isSome_of_eq_some isScale)).apart
        obtain ⟨taken, left⟩ := cut_digits areDigits.digits fun c first => (apart c first).1
        unfold decimal?
        rw [taken, left]
        split
        next fraction rest cut =>
        split at cut
        -- No point follows the digits, for an exponent does not begin with one.
        · exact absurd rfl (apart '.' rfl).2
        · cases cut
          apply (ofDigits_eq_some_iff areDigits.digits (List.forall_mem_nil _)).mpr
          rw [List.append_nil]
          exact ⟨areDigits, scale, isScale, rfl⟩
    | @point whole fraction exponent scale areDigits isScale =>
        have isExponent := isSome_exponent?_iff.mp (Option.isSome_of_eq_some isScale)
        obtain ⟨wholeDigits, fractionDigits⟩ := List.forall_mem_append.mp areDigits.digits
        have apart : ∀ c ∈ ('.' :: (fraction ++ exponent)).head?, c.isDigit = false := by
          rintro c ⟨⟩
          rfl
        obtain ⟨taken, left⟩ := cut_digits wholeDigits apart
        obtain ⟨taken', left'⟩ := cut_digits fractionDigits fun c first =>
          (isExponent.apart c first).1
        unfold decimal?
        rw [taken, left]
        simp only [taken', left']
        exact (ofDigits_eq_some_iff wholeDigits fractionDigits).mpr ⟨areDigits, scale, isScale, rfl⟩

theorem isSome_decimal?_iff {text : List Char} :
    (decimal? text).isSome ↔ Decimal.Spelled text := by
  rw [Option.isSome_iff_exists, Decimal.spelled_iff]
  simp only [decimal?_eq_some_iff]

/-! ## Signs and words -/

private theorem lower_mem_words_iff {text : List Char} :
    Text.lower text ∈ words ↔ ∃ name ∈ words, Text.AnyCase text name := by
  have small : ∀ name ∈ words, Text.lower name = name := by decide
  constructor
  · intro isWord
    exact ⟨_, isWord, (Text.lower_eq_iff (small _ isWord)).mp rfl⟩
  · rintro ⟨name, isWord, spelled⟩
    rwa [(Text.lower_eq_iff (small name isWord)).mpr spelled]

theorem isSome_unsigned?_iff {negative : Bool} {text : List Char} :
    (unsigned? negative text).isSome ↔ Magnitude text := by
  have either : (unsigned? negative text).isSome ↔
      (decimal? text).isSome ∨ Text.lower text ∈ words := by
    unfold unsigned? words
    generalize Text.lower text = word
    cases decimal? text with
    | some value => exact ⟨fun _ => .inl rfl, fun _ => rfl⟩
    | none =>
        simp only [Option.isSome_none, Bool.false_eq_true, false_or, List.mem_cons,
          List.not_mem_nil, or_false]
        split
        · next nan => exact ⟨fun _ => .inl nan, fun _ => rfl⟩
        · next notNan =>
          split
          · next infinite => exact ⟨fun _ => .inr infinite, fun _ => rfl⟩
          · next finite => exact ⟨nofun, fun isWord => (isWord.elim notNan finite).elim⟩
  rw [either, isSome_decimal?_iff, lower_mem_words_iff]
  constructor
  · rintro (spelled | ⟨name, isWord, spelled⟩)
    · exact .decimal spelled
    · exact .word isWord spelled
  · intro magnitude
    cases magnitude with
    | decimal spelled => exact .inl spelled
    | word isWord spelled => exact .inr ⟨_, isWord, spelled⟩

/-- A sign is no part of the magnitude. -/
private theorem not_magnitude_of_sign {sign : Char} (isSign : sign = '+' ∨ sign = '-')
    (rest : List Char) : ¬ Magnitude (sign :: rest) := by
  rw [← @isSome_unsigned?_iff false]
  rcases isSign with rfl | rfl
  · simp [unsigned?, decimal?, Text.lower]
  · simp [unsigned?, decimal?, Text.lower]

theorem ofLiteral?_of_magnitude {text : List Char} (magnitude : Magnitude text) :
    ofLiteral? text = unsigned? false text := by
  apply ofLiteral?.eq_3
  · rintro rest rfl
    exact not_magnitude_of_sign (.inr rfl) rest magnitude
  · rintro rest rfl
    exact not_magnitude_of_sign (.inl rfl) rest magnitude

/-- What is read as a number is a literal. -/
theorem isSome_ofLiteral?_iff {text : List Char} :
    (ofLiteral? text).isSome ↔ Literal text := by
  constructor
  · intro read
    unfold ofLiteral? at read
    split at read
    · exact .minus (isSome_unsigned?_iff.mp read)
    · exact .plus (isSome_unsigned?_iff.mp read)
    · exact .unsigned (isSome_unsigned?_iff.mp read)
  · intro literal
    cases literal with
    | minus magnitude => exact isSome_unsigned?_iff.mpr magnitude
    | plus magnitude => exact isSome_unsigned?_iff.mpr magnitude
    | unsigned magnitude =>
        rw [ofLiteral?_of_magnitude magnitude]
        exact isSome_unsigned?_iff.mpr magnitude

end Binary32

end RemoteInput
