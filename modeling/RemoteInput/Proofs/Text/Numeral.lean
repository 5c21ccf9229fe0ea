import Mathlib.Data.List.Induction
import Mathlib.Data.Nat.Digits.Defs
import RemoteInput.Proofs.Text.Words
import RemoteInput.Text.Numeral

/-!
# What numerals are read

A signed numeral is one sign or none, and then decimal digits.  `Numeral` gives it
its value, which has no bound: a text is read as a number of thirty-two bits just if
it is a numeral whose value fits.  The decimal text of a number is a numeral of it.
-/

namespace RemoteInput

namespace Text

/-- Decimal digits, one at least. -/
structure Digits (text : List Char) : Prop where
  nonempty : text ≠ []
  digits : ∀ c ∈ text, c.isDigit = true

/-- The number that decimal digits write, the most significant first. -/
def number (digits : List Char) : Nat :=
  Nat.ofDigits 10 (digits.reverse.map fun c => c.toNat - '0'.toNat)

/-- A signed numeral and its value. -/
inductive Numeral : List Char → Int → Prop where
  | unsigned {text : List Char} (digits : Digits text) : Numeral text (number text)
  | plus {text : List Char} (digits : Digits text) : Numeral ('+' :: text) (number text)
  | minus {text : List Char} (digits : Digits text) : Numeral ('-' :: text) (-number text)

/-! ## Digits -/

private theorem digitValue?_of_isDigit {c : Char} (isDigit : c.isDigit = true) :
    digitValue? 10 c = some (c.toNat - '0'.toNat) := by
  obtain ⟨low, high⟩ := Char.isDigit_iff_toNat.mp isDigit
  have inside : ('0' ≤ c && c ≤ '9') = true := by
    rw [Bool.and_eq_true, decide_eq_true_eq, decide_eq_true_eq]
    exact ⟨low, high⟩
  have small : c.toNat - 0x30 < 10 := by
    change c.toNat ≤ 0x39 at high
    omega
  rw [digitValue?, if_pos inside, if_pos small]
  rfl

private theorem digitValue?_of_other {c : Char} (other : c.isDigit = false) :
    digitValue? 10 c = none := by
  have outside : ¬ ('0' ≤ c && c ≤ '9') = true := by
    rw [Bool.and_eq_true, decide_eq_true_eq, decide_eq_true_eq]
    intro inside
    rw [Char.isDigit_iff_toNat.mpr inside] at other
    cases other
  rw [digitValue?, if_neg outside, if_neg]
  split
  · omega
  · split
    · omega
    · omega

theorem number_eq (digits : List Char) : number digits = Nat.ofDigitChars 10 digits 0 := by
  induction digits using List.reverseRecOn with
  | nil => rfl
  | append_singleton digits c induction =>
      unfold number at induction ⊢
      rw [Nat.ofDigitChars_append, ← induction, Nat.ofDigitChars_cons, Nat.ofDigitChars_nil,
        List.reverse_append, List.reverse_singleton, List.singleton_append, List.map_cons,
        Nat.ofDigits_cons, Nat.add_comm]

private theorem foldlM_digits {digits : List Char} (areDigits : ∀ c ∈ digits, c.isDigit = true)
    (value : Nat) :
    digits.foldlM (fun value c => (digitValue? 10 c).map (value * 10 + ·)) value =
      some (Nat.ofDigitChars 10 digits value) := by
  induction digits generalizing value with
  | nil => rfl
  | cons c rest induction =>
      have first := digitValue?_of_isDigit (areDigits c List.mem_cons_self)
      have later := induction fun other member => areDigits other (List.mem_cons_of_mem _ member)
      rw [List.foldlM_cons, first, Option.map_some, Option.bind_eq_bind, Option.bind_some, later,
        Nat.ofDigitChars_cons, Nat.mul_comm]

theorem number_cons (c : Char) (digits : List Char) :
    number (c :: digits) = number digits + 10 ^ digits.length * (c.toNat - '0'.toNat) := by
  simp [number, Nat.ofDigits_append]

/-- Zeros before a number add nothing to it. -/
theorem number_dropWhile (digits : List Char) :
    number (digits.dropWhile (· = '0')) = number digits := by
  induction digits with
  | nil => rfl
  | cons c digits induction =>
      rw [List.dropWhile_cons]
      split
      · next zero =>
        have isZero : c = '0' := by simpa using zero
        rw [induction, number_cons, isZero, Nat.sub_self, Nat.mul_zero, Nat.add_zero]
      · rfl

theorem number_lt {digits : List Char} (areDigits : ∀ c ∈ digits, c.isDigit = true) :
    number digits < 10 ^ digits.length := by
  induction digits with
  | nil => exact Nat.one_pos
  | cons c digits induction =>
      have rest := induction fun other member => areDigits other (List.mem_cons_of_mem _ member)
      obtain ⟨_, high⟩ := Char.isDigit_iff_toNat.mp (areDigits c List.mem_cons_self)
      have digit : c.toNat - '0'.toNat ≤ 9 := Nat.sub_le_of_le_add high
      rw [number_cons, List.length_cons, Nat.pow_succ]
      have most := Nat.mul_le_mul_left (10 ^ digits.length) digit
      omega

theorem le_number {c : Char} {digits : List Char} (isDigit : c.isDigit = true) (nonzero : c ≠ '0') :
    10 ^ digits.length ≤ number (c :: digits) := by
  obtain ⟨low, _⟩ := Char.isDigit_iff_toNat.mp isDigit
  have positive : 0 < c.toNat - '0'.toNat := by
    have differ : c.toNat ≠ '0'.toNat := fun same => nonzero (Char.toNat_inj.mp same)
    omega
  rw [number_cons]
  exact (Nat.le_mul_of_pos_right _ positive).trans (Nat.le_add_left _ _)

theorem digitsValue?_of_digits {digits : List Char} (areDigits : ∀ c ∈ digits, c.isDigit = true) :
    digitsValue? 10 digits = some (number digits) := by
  rw [number_eq]
  exact foldlM_digits areDigits 0

/-- However the values of the characters are put together, all of them have one just
if all are digits. -/
theorem isSome_foldlM_digits_iff {digits : List Char} {combine : Nat → Nat → Nat} {value : Nat} :
    (digits.foldlM (fun value c => (digitValue? 10 c).map (combine value)) value).isSome ↔
      ∀ c ∈ digits, c.isDigit = true := by
  induction digits generalizing value with
  | nil => simp
  | cons c rest induction =>
      rw [List.foldlM_cons, Option.bind_eq_bind, List.forall_mem_cons]
      cases isDigit : c.isDigit with
      | true => simpa [digitValue?_of_isDigit isDigit] using induction
      | false => simp [digitValue?_of_other isDigit]

theorem natural?_eq_some_iff {text : List Char} {value : Nat} :
    natural? text = some value ↔ Digits text ∧ value = number text := by
  unfold natural? digitsValue?
  constructor
  · intro read
    split at read
    · cases read
    · next nonempty =>
      have digits := isSome_foldlM_digits_iff.mp (Option.isSome_of_eq_some read)
      rw [foldlM_digits digits, Option.some.injEq] at read
      rw [number_eq]
      exact ⟨⟨by simpa using nonempty, digits⟩, read.symm⟩
  · rintro ⟨digits, rfl⟩
    rw [if_neg (by simpa using digits.nonempty), foldlM_digits digits.digits, number_eq]

/-- A digit is no sign. -/
private theorem Digits.unsigned {text : List Char} {c : Char} (digits : Digits (c :: text)) :
    c ≠ '+' ∧ c ≠ '-' := by
  have isDigit := digits.digits c List.mem_cons_self
  constructor
  · rintro rfl
    cases isDigit
  · rintro rfl
    cases isDigit

private theorem map_natural?_eq_some_iff {text : List Char} {sign : Int → Int} {value : Int} :
    Option.map sign (do
        let n ← natural? text
        pure (n : Int)) = some value ↔ Digits text ∧ value = sign (number text) := by
  cases read : natural? text with
  | none =>
      have unread : ¬ Digits text := by
        intro digits
        rw [natural?_eq_some_iff.mpr ⟨digits, rfl⟩] at read
        cases read
      simp [unread]
  | some n =>
      obtain ⟨digits, rfl⟩ := natural?_eq_some_iff.mp read
      simp [digits, eq_comm]

/-- What is read as an integer is a numeral, and the integer is its value. -/
theorem integer?_eq_some_iff {text : List Char} {value : Int} :
    integer? text = some value ↔ Numeral text value := by
  constructor
  · intro read
    unfold integer? at read
    split at read
    · obtain ⟨digits, rfl⟩ := map_natural?_eq_some_iff.mp read
      exact .minus digits
    · obtain ⟨digits, rfl⟩ := map_natural?_eq_some_iff.mp read
      exact .plus digits
    · obtain ⟨digits, rfl⟩ := map_natural?_eq_some_iff.mp read
      exact .unsigned digits
  · intro numeral
    cases numeral with
    | minus digits => exact map_natural?_eq_some_iff.mpr ⟨digits, rfl⟩
    | plus digits => exact map_natural?_eq_some_iff.mpr ⟨digits, rfl⟩
    | unsigned digits =>
        rw [integer?.eq_3]
        · exact map_natural?_eq_some_iff.mpr ⟨digits, rfl⟩
        · rintro rest rfl
          exact digits.unsigned.2 rfl
        · rintro rest rfl
          exact digits.unsigned.1 rfl

/-- What is read as a number of thirty-two bits is a numeral whose value fits. -/
theorem int32?_eq_some_iff {text : List Char} {value : Int32} :
    int32? text = some value ↔ Numeral text value.toInt := by
  have low := value.le_toInt
  have high := value.toInt_lt
  rw [int32?, Option.bind_eq_bind, Option.bind_eq_some_iff]
  constructor
  · rintro ⟨number, read, fits⟩
    split at fits
    · next inRange =>
      rw [Option.some.injEq] at fits
      rw [← fits, Int32.toInt_ofInt_of_le (by omega) (by omega)]
      exact integer?_eq_some_iff.mp read
    · cases fits
  · intro numeral
    refine ⟨value.toInt, integer?_eq_some_iff.mpr numeral, ?_⟩
    rw [if_pos (by omega), Int32.ofInt_toInt]

/-- A numeral whose value fits is read. -/
theorem int32?_of_numeral {text : List Char} {value : Int} (numeral : Numeral text value)
    (low : -2 ^ 31 ≤ value) (high : value < 2 ^ 31) :
    ∃ read, int32? text = some read ∧ read.toInt = value := by
  have fits : (Int32.ofInt value).toInt = value := Int32.toInt_ofInt_of_le low high
  refine ⟨.ofInt value, int32?_eq_some_iff.mpr ?_, fits⟩
  rwa [fits]

/-- A numeral is one word. -/
theorem Numeral.solid {word : List Char} {value : Int} (numeral : Numeral word value) :
    Solid word := by
  have letter : ∀ c : Char, c.isDigit = true → isBlank c = false := by
    intro c isDigit
    obtain ⟨low, high⟩ := Char.isDigit_iff_toNat.mp isDigit
    change 0x30 ≤ c.toNat at low
    change c.toNat ≤ 0x39 at high
    exact isBlank_of_graphic (by omega)
  have signed : ∀ {digits : List Char} {sign : Char}, Digits digits → isBlank sign = false →
      Solid (sign :: digits) := by
    intro digits sign areDigits isLetter
    refine ⟨List.cons_ne_nil _ _, ?_⟩
    intro c member
    rcases List.mem_cons.mp member with rfl | later
    · exact isLetter
    · exact letter c (areDigits.digits c later)
  cases numeral with
  | unsigned digits => exact ⟨digits.nonempty, fun c member => letter c (digits.digits c member)⟩
  | plus digits => exact signed digits (by decide)
  | minus digits => exact signed digits (by decide)

/-! ## Exponents -/

private theorem isSome_map_exponentDigits?_iff {digits : List Char} {sign : Int → Int}
    (nonempty : digits ≠ []) :
    (Option.map sign (do
        let value ← exponentDigits? digits
        pure (value : Int))).isSome ↔ Digits digits := by
  have areDigits : (exponentDigits? digits).isSome ↔ ∀ c ∈ digits, c.isDigit = true :=
    isSome_foldlM_digits_iff
  have same : (Option.map sign (do
      let value ← exponentDigits? digits
      pure (value : Int))).isSome = (exponentDigits? digits).isSome := by
    cases exponentDigits? digits <;> rfl
  rw [same, areDigits]
  exact ⟨fun digits => ⟨nonempty, digits⟩, fun digits => digits.digits⟩

private theorem exponent?_of_digits {text : List Char} (digits : Digits text) :
    exponent? text = Option.map (fun value => value) (do
      let value ← exponentDigits? text
      pure (value : Int)) := by
  rw [exponent?.eq_6 _ digits.nonempty]
  · rintro rfl
    exact digits.unsigned.2 rfl
  · rintro rfl
    exact digits.unsigned.1 rfl
  · rintro rest rfl
    exact digits.unsigned.2 rfl
  · rintro rest rfl
    exact digits.unsigned.1 rfl

/-- What is read as an exponent is a signed numeral. -/
theorem isSome_exponent?_iff {text : List Char} :
    (exponent? text).isSome ↔ ∃ value, Numeral text value := by
  constructor
  · intro read
    unfold exponent? at read
    split at read
    · cases read
    · cases read
    · cases read
    · next _ nonempty => exact ⟨_, .minus ((isSome_map_exponentDigits?_iff nonempty).mp read)⟩
    · next _ nonempty => exact ⟨_, .plus ((isSome_map_exponentDigits?_iff nonempty).mp read)⟩
    · next nonempty _ _ _ _ =>
      exact ⟨_, .unsigned ((isSome_map_exponentDigits?_iff nonempty).mp read)⟩
  · rintro ⟨value, numeral⟩
    cases numeral with
    | minus digits =>
        rw [exponent?.eq_4 _ digits.nonempty]
        exact (isSome_map_exponentDigits?_iff digits.nonempty).mpr digits
    | plus digits =>
        rw [exponent?.eq_5 _ digits.nonempty]
        exact (isSome_map_exponentDigits?_iff digits.nonempty).mpr digits
    | unsigned digits =>
        rw [exponent?_of_digits digits]
        exact (isSome_map_exponentDigits?_iff digits.nonempty).mpr digits

theorem exponentDigits?_cases {digits : List Char} (areDigits : ∀ c ∈ digits, c.isDigit = true)
    {value : Nat} (read : exponentDigits? digits = some value) :
    value = number digits ∨ 2 ^ 16 ≤ value ∧ value ≤ number digits := by
  induction digits using List.reverseRecOn generalizing value with
  | nil =>
      cases read
      exact .inl rfl
  | append_singleton digits c induction =>
      obtain ⟨others, last⟩ := List.forall_mem_append.mp areDigits
      have isDigit := digitValue?_of_isDigit (last c (List.mem_singleton.mpr rfl))
      have whole : number (digits ++ [c]) = number digits * 10 + (c.toNat - '0'.toNat) := by
        simp only [number_eq, Nat.ofDigitChars_append, Nat.ofDigitChars_cons,
          Nat.ofDigitChars_nil]
        omega
      unfold exponentDigits? at read induction
      rw [List.foldlM_append, Option.bind_eq_bind, Option.bind_eq_some_iff] at read
      obtain ⟨first, isFirst, later⟩ := read
      have known := induction others isFirst
      simp only [List.foldlM_cons, List.foldlM_nil, isDigit, Option.map_some] at later
      cases later
      split
      · next below =>
        change first < 2 ^ 16 at below
        omega
      · next above =>
        change ¬ first < 2 ^ 16 at above
        omega

/-- An exponent is read as it is, or it is as large as the one that is read instead. -/
theorem exponent?_cases {text : List Char} {value scale : Int} (numeral : Numeral text value)
    (read : exponent? text = some scale) :
    scale = value ∨ 2 ^ 16 ≤ scale ∧ scale ≤ value ∨ scale ≤ -2 ^ 16 ∧ value ≤ scale := by
  have parts : ∀ {digits : List Char} {sign : Int → Int}, Digits digits →
      Option.map sign (do
        let value ← exponentDigits? digits
        pure (value : Int)) = some scale →
      ∃ n : Nat, scale = sign n ∧ (n = number digits ∨ 2 ^ 16 ≤ n ∧ n ≤ number digits) := by
    intro digits sign areDigits isRead
    cases isNumber : exponentDigits? digits with
    | none => simp [isNumber] at isRead
    | some n =>
        simp only [isNumber, Option.bind_eq_bind, Option.bind_some, Option.pure_def,
          Option.map_some, Option.some.injEq] at isRead
        exact ⟨n, isRead.symm, exponentDigits?_cases areDigits.digits isNumber⟩
  cases numeral with
  | minus digits =>
      rw [exponent?.eq_4 _ digits.nonempty] at read
      obtain ⟨n, rfl, known⟩ := parts digits read
      omega
  | plus digits =>
      rw [exponent?.eq_5 _ digits.nonempty] at read
      obtain ⟨n, rfl, known⟩ := parts digits read
      omega
  | unsigned digits =>
      rw [exponent?_of_digits digits] at read
      obtain ⟨n, rfl, known⟩ := parts digits read
      omega

/-! ## Writing -/

private theorem digits_toDigits (n : Nat) : Digits (Nat.toDigits 10 n) :=
  ⟨Nat.toDigits_ne_nil, fun _ => Nat.isDigit_of_mem_toDigits (by decide) (by decide)⟩

private theorem number_toDigits (n : Nat) : number (Nat.toDigits 10 n) = n := by
  rw [number_eq, Nat.ofDigitChars_toDigits (by decide) (by decide)]

/-- The decimal text of a number is a numeral of it. -/
theorem numeral_decimal (value : Int) : Numeral (decimal value).toList value := by
  cases value with
  | ofNat n =>
      have numeral := Numeral.unsigned (digits_toDigits n)
      rw [number_toDigits] at numeral
      rwa [decimal, String.toList_ofList]
  | negSucc n =>
      have numeral := Numeral.minus (digits_toDigits (n + 1))
      rw [number_toDigits] at numeral
      rwa [decimal, String.toList_ofList]

end Text

end RemoteInput
