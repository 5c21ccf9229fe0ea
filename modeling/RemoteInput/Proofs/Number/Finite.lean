import RemoteInput.Proofs.Number.Arithmetic
import RemoteInput.Proofs.Number.Literal

/-!
# Which literals are finite

A decimal is read as a finite number if its value is below `limit`; from there on it is
nearer to the next power of two, which the format does not have: `isFinite_ofDecimal_iff`.
`FiniteLiteral` says so of the text, which is no word then.  An exponent counts as it is
read; in a text that is not very long it may as well count as it is written:
`finiteLiteral_iff`.
-/

namespace RemoteInput

namespace Binary32

/-- Halfway between the largest finite number and the next power of two. -/
def limit : ℚ :=
  2 ^ 128 - 2 ^ 103

/-! ## Overflow -/

theorem overflow_eq : (overflow : ℚ) = 2 ^ 128 * one := by
  have whole : overflow = 2 ^ 128 * one := by decide +kernel
  exact_mod_cast whole

/-- The largest finite number. -/
theorem representable_largest : Representable (2 ^ 128 - 2 ^ 104) := by
  refine ⟨2 ^ 24 - 1, 253, by decide, ?_⟩
  rw [one]
  norm_num

/-- A tie goes to the even side, and that is up. -/
theorem rounded_limit : rounded limit = 2 ^ 128 := by
  have units : roundUnits ((2 ^ 25 - 1) * 2 ^ 252) 1 = overflow := by decide +kernel
  have quotient : limit = ((2 ^ 25 - 1) * 2 ^ 252 : ℕ) / (1 : ℕ) / one := by
    rw [limit, one]
    norm_num
  rw [quotient, rounded_quotient _ Nat.one_pos, units, overflow_eq,
    mul_div_cancel_right₀ _ one_pos.ne']

theorem rounded_lt_iff {x : ℚ} : rounded x < 2 ^ 128 ↔ x < limit := by
  constructor
  · intro below
    by_contra large
    have above := rounded_mono (not_lt.mp large)
    rw [rounded_limit] at above
    exact absurd below (not_lt.mpr above)
  · intro small
    by_contra large
    have nearest := abs_rounded_sub_le representable_largest x
    have far : (2 : ℚ) ^ 128 - x ≤ |rounded x - x| := by
      have distance := le_abs_self (rounded x - x)
      linarith
    rw [limit] at small
    rcases abs_cases ((2 : ℚ) ^ 128 - 2 ^ 104 - x) with ⟨same, _⟩ | ⟨same, _⟩
    · rw [same] at nearest
      linarith
    · rw [same] at nearest
      linarith

theorem isFinite_round_iff (negative : Bool) (num : ℕ) {den : ℕ} (positive : 0 < den) :
    (round negative num den).isFinite ↔ (num / den / one : ℚ) < limit := by
  have fits : roundUnits num den < overflow ↔ (num / den / one : ℚ) < limit := by
    rw [← rounded_lt_iff, rounded_quotient num positive, div_lt_iff₀ one_pos, ← overflow_eq,
      Nat.cast_lt]
  rw [← fits]
  unfold round
  dsimp only
  split
  · next below => simp [below, isFinite]
  · next above => simp [above, isFinite]

theorem isFinite_ofInt (value : Int32) : (ofInt value.toInt).isFinite := by
  have low := value.le_toInt
  have high := value.toInt_lt
  have small : (value.toInt.natAbs : ℚ) ≤ 2 ^ 31 := by
    exact_mod_cast (by omega : value.toInt.natAbs ≤ 2 ^ 31)
  have bounded : (2 : ℚ) ^ 31 < limit := by norm_num [limit]
  apply (isFinite_round_iff _ _ Nat.one_pos).mpr
  push_cast
  rw [div_one, mul_div_cancel_right₀ _ one_pos.ne']
  exact small.trans_lt bounded

/-! ## Decimals -/

namespace Decimal

def value (decimal : Decimal) : ℚ :=
  decimal.coefficient * 10 ^ decimal.exponent

theorem value_of_nonneg {decimal : Decimal} (whole : 0 ≤ decimal.exponent) :
    decimal.value = (decimal.coefficient * Nat.pow 10 decimal.exponent.toNat : ℕ) := by
  rw [Nat.cast_mul, Nat.pow_eq, Nat.cast_pow, Nat.cast_ofNat, ← zpow_natCast,
    Int.toNat_of_nonneg whole]
  rfl

theorem value_of_neg {decimal : Decimal} (fraction : decimal.exponent < 0) :
    decimal.value = decimal.coefficient / (Nat.pow 10 (-decimal.exponent).toNat : ℕ) := by
  rw [Nat.pow_eq, Nat.cast_pow, Nat.cast_ofNat, ← zpow_natCast, Int.toNat_of_nonneg (by omega),
    zpow_neg, div_inv_eq_mul]
  rfl

/-- The width is the number of digits of the coefficient. -/
structure Proper (decimal : Decimal) : Prop where
  most : decimal.coefficient < 10 ^ decimal.width
  least : decimal.coefficient ≠ 0 → 10 ^ decimal.width ≤ 10 * decimal.coefficient

section

variable {decimal : Decimal} (proper : decimal.Proper)

include proper

theorem Proper.value_lt : decimal.value < 10 ^ (decimal.width + decimal.exponent) := by
  have most : (decimal.coefficient : ℚ) < 10 ^ decimal.width := by exact_mod_cast proper.most
  have scale : (0 : ℚ) < 10 ^ decimal.exponent := zpow_pos (by norm_num) _
  rw [zpow_add₀ (by norm_num), zpow_natCast]
  exact mul_lt_mul_of_pos_right most scale

theorem Proper.le_value (nonzero : decimal.coefficient ≠ 0) :
    10 ^ (decimal.width + decimal.exponent) ≤ 10 * decimal.value := by
  have least : (10 : ℚ) ^ decimal.width ≤ 10 * decimal.coefficient := by
    exact_mod_cast proper.least nonzero
  have scale : (0 : ℚ) < 10 ^ decimal.exponent := zpow_pos (by norm_num) _
  rw [zpow_add₀ (by norm_num), zpow_natCast, value, ← mul_assoc]
  exact mul_le_mul_of_nonneg_right least scale.le

end

section

variable {whole fraction : List Char} (areDigits : Text.Digits (whole ++ fraction)) (scale : ℤ)

include areDigits

theorem coefficient_ofDigits :
    (ofDigits whole fraction scale).coefficient = Text.number (whole ++ fraction) := by
  have digits : ∀ c ∈ (whole ++ fraction).dropWhile (· = '0'), c.isDigit = true :=
    fun c member => areDigits.digits c (List.dropWhile_subset _ member)
  unfold ofDigits
  dsimp only
  rw [Text.digitsValue?_of_digits digits, Text.number_dropWhile]
  rfl

theorem proper_ofDigits : (ofDigits whole fraction scale).Proper := by
  have digits : ∀ c ∈ (whole ++ fraction).dropWhile (· = '0'), c.isDigit = true :=
    fun c member => areDigits.digits c (List.dropWhile_subset _ member)
  have coefficient := coefficient_ofDigits areDigits scale
  have width : (ofDigits whole fraction scale).width =
      ((whole ++ fraction).dropWhile (· = '0')).length := rfl
  rw [← Text.number_dropWhile] at coefficient
  constructor
  · rw [coefficient, width]
    exact Text.number_lt digits
  · intro nonzero
    rw [coefficient] at nonzero ⊢
    rw [width]
    cases isFirst : (whole ++ fraction).dropWhile (· = '0') with
    | nil =>
        rw [isFirst] at nonzero
        exact absurd rfl nonzero
    | cons c rest =>
        have first : c ≠ '0' := by
          have head := List.head?_dropWhile_not (· = '0') (whole ++ fraction)
          simpa [isFirst] using head
        have least : 10 ^ rest.length ≤ Text.number (c :: rest) :=
          Text.le_number (digits c (by simp [isFirst])) first
        rw [List.length_cons, Nat.pow_succ]
        omega

theorem value_ofDigits :
    (ofDigits whole fraction scale).value =
      Text.number (whole ++ fraction) * 10 ^ (scale - fraction.length) := by
  rw [value, coefficient_ofDigits areDigits]
  rfl

end

end Decimal

/-- A decimal is read as a finite number if it is nearer to that than to the next power of two. -/
theorem isFinite_ofDecimal_iff (negative : Bool) {decimal : Decimal} (proper : decimal.Proper) :
    (ofDecimal negative decimal).isFinite ↔ decimal.value < limit := by
  have bounds : 1 < limit ∧ limit < 10 ^ 40 := by norm_num [limit]
  unfold ofDecimal
  dsimp only
  split
  · next zero =>
    have none : decimal.value = 0 := by simp [Decimal.value, zero]
    simp [isFinite, none, zero_lt_one.trans bounds.1]
  · next nonzero =>
    split
    · next large =>
      have enough : (10 : ℚ) ^ (41 : ℤ) ≤ 10 ^ (decimal.width + decimal.exponent) :=
        zpow_le_zpow_right₀ (by norm_num) (by omega)
      have above := proper.le_value nonzero
      have beyond : limit ≤ decimal.value := by
        norm_num at enough bounds
        linarith
      simp [isFinite, not_lt.mpr beyond]
    · split
      · next small =>
        have little : (10 : ℚ) ^ (decimal.width + decimal.exponent) ≤ 10 ^ (0 : ℤ) :=
          zpow_le_zpow_right₀ (by norm_num) (by omega)
        rw [zpow_zero] at little
        have within : decimal.value < limit := (proper.value_lt.trans_le little).trans bounds.1
        simp [isFinite, within]
      · split
        · next whole =>
          rw [isFinite_round_iff _ _ Nat.one_pos, Nat.cast_mul, Nat.cast_one, div_one,
            mul_div_cancel_right₀ _ one_pos.ne', Decimal.value_of_nonneg whole]
        · next fraction =>
          have positive : 0 < Nat.pow 10 (-decimal.exponent).toNat := Nat.pow_pos (by decide)
          rw [isFinite_round_iff _ _ positive, Nat.cast_mul, div_right_comm,
            mul_div_cancel_right₀ _ one_pos.ne', Decimal.value_of_neg (by omega)]

/-! ## Finite literals -/

/-- An exponent is read as a number. -/
def Exponent.Reads (text : List Char) (scale : ℤ) : Prop :=
  exponent? text = some scale

/-- An exponent writes a number: zero if it is absent. -/
inductive Exponent.Writes : List Char → ℤ → Prop where
  | absent : Exponent.Writes [] 0
  | scale {letter : Char} {text : List Char} {value : ℤ} (isLetter : letter = 'e' ∨ letter = 'E')
      (numeral : Text.Numeral text value) : Exponent.Writes (letter :: text) value

section

variable (Scale : List Char → ℤ → Prop)

/-- The number that digits write, with a point or without, if their exponent has a scale. -/
inductive Decimal.Writes : List Char → ℚ → Prop where
  | whole {digits exponent : List Char} {scale : ℤ} (areDigits : Text.Digits digits)
      (isScale : Scale exponent scale) :
      Decimal.Writes (digits ++ exponent) (Text.number digits * 10 ^ scale)
  | point {whole fraction exponent : List Char} {scale : ℤ}
      (areDigits : Text.Digits (whole ++ fraction)) (isScale : Scale exponent scale) :
      Decimal.Writes (whole ++ '.' :: (fraction ++ exponent))
        (Text.number (whole ++ fraction) * 10 ^ (scale - fraction.length))

/-- A literal of a number that is not too large, with a sign or without. -/
inductive FiniteLiteral : List Char → Prop where
  | unsigned {text : List Char} {value : ℚ} (writes : Decimal.Writes Scale text value)
      (small : value < limit) : FiniteLiteral text
  | plus {text : List Char} {value : ℚ} (writes : Decimal.Writes Scale text value)
      (small : value < limit) : FiniteLiteral ('+' :: text)
  | minus {text : List Char} {value : ℚ} (writes : Decimal.Writes Scale text value)
      (small : value < limit) : FiniteLiteral ('-' :: text)

end

/-! ## Literals that are read -/

theorem Decimal.Reads.writes {text : List Char} {decimal : Decimal} (reads : Reads text decimal) :
    Writes Exponent.Reads text decimal.value ∧ decimal.Proper := by
  cases reads with
  | @whole digits exponent scale areDigits isScale =>
      have areAll : Text.Digits (digits ++ []) := by rwa [List.append_nil]
      refine ⟨?_, proper_ofDigits areAll scale⟩
      have writes := @Writes.whole Exponent.Reads digits exponent scale areDigits isScale
      simpa [value_ofDigits areAll] using writes
  | @point whole fraction exponent scale areDigits isScale =>
      refine ⟨?_, proper_ofDigits areDigits scale⟩
      rw [value_ofDigits areDigits]
      exact .point areDigits isScale

theorem Decimal.Writes.reads {text : List Char} {value : ℚ}
    (writes : Writes Exponent.Reads text value) :
    ∃ decimal, Reads text decimal ∧ decimal.value = value := by
  cases writes with
  | @whole digits exponent scale areDigits isScale =>
      have areAll : Text.Digits (digits ++ []) := by rwa [List.append_nil]
      exact ⟨_, .whole areDigits isScale, by simp [value_ofDigits areAll]⟩
  | point areDigits isScale => exact ⟨_, .point areDigits isScale, value_ofDigits areDigits _⟩

theorem isFinite_unsigned?_iff {negative : Bool} {text : List Char} :
    (∃ number, unsigned? negative text = some number ∧ number.isFinite) ↔
      ∃ value, Decimal.Writes Exponent.Reads text value ∧ value < limit := by
  constructor
  · rintro ⟨number, read, finite⟩
    unfold unsigned? at read
    split at read
    · next decimal isDecimal =>
      cases read
      obtain ⟨writes, proper⟩ := (decimal?_eq_some_iff.mp isDecimal).writes
      exact ⟨_, writes, (isFinite_ofDecimal_iff negative proper).mp finite⟩
    · dsimp only at read
      split at read
      · cases read
        cases finite
      · split at read
        · cases read
          cases finite
        · cases read
  · rintro ⟨_, writes, small⟩
    obtain ⟨decimal, reads, rfl⟩ := writes.reads
    refine ⟨ofDecimal negative decimal, ?_,
      (isFinite_ofDecimal_iff negative reads.writes.2).mpr small⟩
    rw [unsigned?, decimal?_eq_some_iff.mpr reads]

/-- A literal is read as a finite number just if it is one of a number that is not too large. -/
theorem isFinite_ofLiteral?_iff {text : List Char} :
    (∃ number, ofLiteral? text = some number ∧ number.isFinite) ↔
      FiniteLiteral Exponent.Reads text := by
  constructor
  · rintro ⟨number, read, finite⟩
    unfold ofLiteral? at read
    split at read
    · obtain ⟨_, writes, small⟩ := isFinite_unsigned?_iff.mp ⟨number, read, finite⟩
      exact .minus writes small
    · obtain ⟨_, writes, small⟩ := isFinite_unsigned?_iff.mp ⟨number, read, finite⟩
      exact .plus writes small
    · obtain ⟨_, writes, small⟩ := isFinite_unsigned?_iff.mp ⟨number, read, finite⟩
      exact .unsigned writes small
  · intro literal
    cases literal with
    | minus writes small => exact isFinite_unsigned?_iff.mpr ⟨_, writes, small⟩
    | plus writes small => exact isFinite_unsigned?_iff.mpr ⟨_, writes, small⟩
    | unsigned writes small =>
        obtain ⟨number, read, finite⟩ :=
          (@isFinite_unsigned?_iff false text).mpr ⟨_, writes, small⟩
        have magnitude := isSome_unsigned?_iff.mp (Option.isSome_of_eq_some read)
        rw [ofLiteral?_of_magnitude magnitude]
        exact ⟨number, read, finite⟩

/-! ## Large exponents -/

/-- Two scales are the same, or both are very large, or both very small. -/
def SameSide (scale other : ℤ) : Prop :=
  scale = other ∨ 2 ^ 16 ≤ scale ∧ 2 ^ 16 ≤ other ∨ scale ≤ -2 ^ 16 ∧ other ≤ -2 ^ 16

theorem Exponent.Writes.reads {text : List Char} {scale : ℤ} (writes : Writes text scale) :
    ∃ other, Reads text other ∧ SameSide scale other := by
  cases writes with
  | absent => exact ⟨0, rfl, .inl rfl⟩
  | @scale letter text value isLetter numeral =>
      obtain ⟨other, read⟩ :=
        Option.isSome_iff_exists.mp (Text.isSome_exponent?_iff.mpr ⟨_, numeral⟩)
      have known := Text.exponent?_cases numeral read
      refine ⟨other, ?_, by unfold SameSide; omega⟩
      rcases isLetter with rfl | rfl
      · exact read
      · exact read

theorem Exponent.Reads.writes {text : List Char} {scale : ℤ} (reads : Reads text scale) :
    ∃ other, Writes text other ∧ SameSide scale other := by
  have isExponent : Exponent text := isSome_exponent?_iff.mp (Option.isSome_of_eq_some reads)
  cases isExponent with
  | absent =>
      cases reads
      exact ⟨0, .absent, .inl rfl⟩
  | @scale letter text value isLetter numeral =>
      have read : Text.exponent? text = some scale := by
        rcases isLetter with rfl | rfl
        · exact reads
        · exact reads
      have known := Text.exponent?_cases numeral read
      exact ⟨value, .scale isLetter numeral, by unfold SameSide; omega⟩

section

variable {digits : List Char} {scale : ℤ} {shift : ℕ}

/-- Few places behind the point are not enough to make up for a very large scale. -/
theorem limit_le_of_large (nonzero : Text.number digits ≠ 0) (large : 2 ^ 16 ≤ scale)
    (within : shift < 65000) : limit ≤ Text.number digits * (10 : ℚ) ^ (scale - shift) := by
  have bound : limit ≤ (10 : ℚ) ^ (40 : ℤ) := by norm_num [limit]
  have one : (1 : ℚ) ≤ Text.number digits := by exact_mod_cast Nat.one_le_iff_ne_zero.mpr nonzero
  have power : (10 : ℚ) ^ (40 : ℤ) ≤ 10 ^ (scale - shift) :=
    zpow_le_zpow_right₀ (by norm_num) (by omega)
  have product := le_mul_of_one_le_left
    (zpow_pos (by norm_num : (0 : ℚ) < 10) (scale - shift)).le one
  exact bound.trans (power.trans product)

/-- Few digits are not enough to make up for a very small scale. -/
theorem lt_limit_of_small (areDigits : ∀ c ∈ digits, c.isDigit = true) (small : scale ≤ -2 ^ 16)
    (short : digits.length < 65000) : Text.number digits * (10 : ℚ) ^ (scale - shift) < limit := by
  have most : (Text.number digits : ℚ) < 10 ^ digits.length := by
    exact_mod_cast Text.number_lt areDigits
  calc
    _ < (10 : ℚ) ^ digits.length * 10 ^ (scale - shift) :=
      mul_lt_mul_of_pos_right most (zpow_pos (by norm_num) _)
    _ = 10 ^ (digits.length + (scale - shift)) := by
      rw [zpow_add₀ (by norm_num), zpow_natCast]
    _ ≤ 10 ^ (0 : ℤ) := zpow_le_zpow_right₀ (by norm_num) (by omega)
    _ < limit := by norm_num [limit]

theorem SameSide.small_iff {other : ℤ} (same : SameSide scale other)
    (areDigits : ∀ c ∈ digits, c.isDigit = true) (short : digits.length < 65000)
    (within : shift ≤ digits.length) :
    Text.number digits * (10 : ℚ) ^ (scale - shift) < limit ↔
      Text.number digits * (10 : ℚ) ^ (other - shift) < limit := by
  have few : shift < 65000 := within.trans_lt short
  by_cases zero : Text.number digits = 0
  · simp [zero]
  · rcases same with rfl | ⟨above, aboveToo⟩ | ⟨below, belowToo⟩
    · exact Iff.rfl
    · exact iff_of_false (not_lt.mpr (limit_le_of_large zero above few))
        (not_lt.mpr (limit_le_of_large zero aboveToo few))
    · exact iff_of_true (lt_limit_of_small areDigits below short)
        (lt_limit_of_small areDigits belowToo short)

end

section

variable {Scale Other : List Char → ℤ → Prop}
  (scales : ∀ text scale, Scale text scale → ∃ other, Other text other ∧ SameSide scale other)

include scales

theorem Decimal.Writes.map {text : List Char} {value : ℚ} (short : text.length < 65000)
    (writes : Writes Scale text value) (small : value < limit) :
    ∃ other, Writes Other text other ∧ other < limit := by
  cases writes with
  | @whole digits exponent scale areDigits isScale =>
      obtain ⟨other, isOther, same⟩ := scales _ _ isScale
      rw [List.length_append] at short
      refine ⟨_, .whole areDigits isOther, ?_⟩
      have alike := @SameSide.small_iff digits scale 0 other same areDigits.digits (by omega)
        (Nat.zero_le _)
      simpa using alike.mp (by simpa using small)
  | @point whole fraction exponent scale areDigits isScale =>
      obtain ⟨other, isOther, same⟩ := scales _ _ isScale
      simp only [List.length_append, List.length_cons] at short
      refine ⟨_, .point areDigits isOther, ?_⟩
      apply (same.small_iff areDigits.digits ?_ ?_).mp small
      · rw [List.length_append]
        omega
      · rw [List.length_append]
        omega

theorem FiniteLiteral.map {text : List Char} (short : text.length < 65000)
    (literal : FiniteLiteral Scale text) : FiniteLiteral Other text := by
  cases literal with
  | unsigned writes small =>
      obtain ⟨_, writes, small⟩ := writes.map scales short small
      exact .unsigned writes small
  | plus writes small =>
      obtain ⟨_, writes, small⟩ := writes.map scales (Nat.lt_of_succ_lt short) small
      exact .plus writes small
  | minus writes small =>
      obtain ⟨_, writes, small⟩ := writes.map scales (Nat.lt_of_succ_lt short) small
      exact .minus writes small

end

/-- In texts that are not very long, exponents may as well be read as they are. -/
theorem finiteLiteral_iff {text : List Char} (short : text.length < 65000) :
    FiniteLiteral Exponent.Reads text ↔ FiniteLiteral Exponent.Writes text :=
  ⟨FiniteLiteral.map (fun _ _ reads => reads.writes) short,
    FiniteLiteral.map (fun _ _ writes => writes.reads) short⟩

end Binary32

end RemoteInput
