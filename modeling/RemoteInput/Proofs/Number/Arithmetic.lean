import RemoteInput.Proofs.Number.Rounding

/-!
# Arithmetic in single precision

A finite number of the format denotes a rational number.  Each operation, unless its
exact result is very large, denotes that result rounded once.
-/

namespace RemoteInput

namespace Binary32

/-- A finite number denotes its units, with its sign. -/
inductive Denotes : Binary32 → ℚ → Prop where
  | finite (negative : Bool) (units : ℕ) :
      Denotes (.finite negative units) (signed negative (units / one))

/-! ## Signs -/

theorem signed_mul (m n : Bool) (x y : ℚ) :
    signed m x * signed n y = signed (m != n) (x * y) := by
  cases m <;> cases n <;> simp [signed]

theorem signed_div (m n : Bool) (x y : ℚ) :
    signed m x / signed n y = signed (m != n) (x / y) := by
  cases m <;> cases n <;> simp [signed, neg_div, div_neg]

theorem signed_zero (negative : Bool) : signed negative 0 = 0 := by
  cases negative with
  | false => rfl
  | true => exact neg_zero

theorem rounded_signed (negative : Bool) (x : ℚ) :
    rounded (signed negative x) = signed negative (rounded x) := by
  cases negative with
  | false => rfl
  | true => exact rounded_neg x

theorem signedUnits_cast (negative : Bool) (units : ℕ) :
    (signedUnits negative units : ℚ) = signed negative units := by
  cases negative with
  | false => exact Int.cast_natCast units
  | true => simp [signedUnits, signed]

theorem signed_div_one (negative : Bool) (x : ℚ) :
    signed negative (x / one) = signed negative x / one := by
  cases negative with
  | false => rfl
  | true => exact (neg_div _ _).symm

/-! ## Rounding once -/

theorem representable_pow (exponent : ℕ) : Representable (2 ^ exponent) := by
  refine ⟨1, exponent + 149, by decide, ?_⟩
  rw [pow_add, one]
  norm_num

/-- What is within a number of the format is so when it is rounded. -/
theorem abs_rounded_le {x bound : ℚ} (representable : Representable bound) (within : |x| ≤ bound) :
    |rounded x| ≤ bound := by
  obtain ⟨low, high⟩ := abs_le.mp within
  rw [abs_le]
  constructor
  · rw [← rounded_of_representable representable.neg]
    exact rounded_mono low
  · rw [← rounded_of_representable representable]
    exact rounded_mono high

theorem rounded_nonneg {x : ℚ} (nonnegative : 0 ≤ x) : 0 ≤ rounded x := by
  rw [← rounded_zero]
  exact rounded_mono nonnegative

theorem rounded_quotient (num : ℕ) {den : ℕ} (positive : 0 < den) :
    rounded (num / den / one) = roundUnits num den / one := by
  have isPositive : (0 : ℚ) < den := by exact_mod_cast positive
  have nonnegative : (0 : ℚ) ≤ num / den / one := by positivity
  have same : ((num / den / one : ℚ).num.natAbs * one) * den =
      num * (num / den / one : ℚ).den := by
    have quotient := abs_eq_quotient (num / den / one)
    rw [abs_of_nonneg nonnegative, div_left_inj' one_pos.ne',
      div_eq_div_iff isPositive.ne' (Nat.cast_ne_zero.mpr (Rat.den_nz _))] at quotient
    exact_mod_cast quotient.symm
  rw [rounded, decide_eq_false (not_lt.mpr nonnegative),
    roundUnits_congr (Rat.den_pos _) positive same]
  rfl

private theorem pow_mul_one_lt_overflow : 2 ^ 127 * one < overflow := by
  have ordered : ∀ {a b c : ℕ}, a + b < c → Nat.pow 2 a * Nat.pow 2 b < Nat.pow 2 c := by
    intro a b c below
    calc
      Nat.pow 2 a * Nat.pow 2 b = 2 ^ (a + b) := (Nat.pow_add 2 a b).symm
      _ < 2 ^ c := Nat.pow_lt_pow_right (by decide) below
  unfold one overflow
  apply ordered
  decide

theorem denotes_round (negative : Bool) (num : ℕ) {den : ℕ} (positive : 0 < den)
    (small : (num / den / one : ℚ) ≤ 2 ^ 127) :
    (round negative num den).Denotes (rounded (signed negative (num / den / one))) := by
  have nonnegative : (0 : ℚ) ≤ num / den / one := by positivity
  have fits : roundUnits num den < overflow := by
    have bounded := abs_rounded_le (representable_pow 127)
      ((abs_of_nonneg nonnegative).trans_le small)
    rw [rounded_quotient num positive, abs_of_nonneg (by positivity),
      div_le_iff₀ one_pos] at bounded
    have units : roundUnits num den ≤ 2 ^ 127 * one := by exact_mod_cast bounded
    exact units.trans_lt pow_mul_one_lt_overflow
  rw [rounded_signed, rounded_quotient num positive]
  unfold round
  dsimp only
  split
  · exact .finite negative _
  · contradiction

theorem denotes_zero (negative : Bool) : (finite negative 0).Denotes 0 := by
  have denotes := Denotes.finite negative 0
  rwa [Nat.cast_zero, zero_div, signed_zero] at denotes

/-- A whole number of units, rounded. -/
theorem denotes_round_natAbs (units : ℤ) (small : |(units / one : ℚ)| ≤ 2 ^ 127) :
    (round (units < 0) units.natAbs 1).Denotes (rounded (units / one)) := by
  have same : (units / one : ℚ) = signed (units < 0) ((units.natAbs : ℚ) / (1 : ℕ) / one) := by
    have sign : decide (units < 0) = decide ((units : ℚ) < 0) :=
      decide_eq_decide.mpr Int.cast_lt_zero.symm
    rw [Nat.cast_one, div_one, signed_div_one, Nat.cast_natAbs, Int.cast_abs, sign, signed_abs]
  rw [same] at small ⊢
  rw [abs_signed] at small
  exact denotes_round _ _ Nat.one_pos ((le_abs_self _).trans small)

variable {a b : Binary32} {x y : ℚ}

theorem Denotes.mul (left : a.Denotes x) (right : b.Denotes y) (small : |x * y| ≤ 2 ^ 127) :
    (a * b).Denotes (rounded (x * y)) := by
  cases left with
  | finite m u =>
    cases right with
    | finite n v =>
      rw [signed_mul] at small ⊢
      have same : (u / one * (v / one) : ℚ) = (u * v : ℕ) / one / one := by
        push_cast
        ring
      rw [same] at small ⊢
      rw [abs_signed] at small
      change Denotes (Binary32.mul _ _) _
      rw [Binary32.mul]
      exact denotes_round (m != n) (u * v) (Nat.two_pow_pos _) ((le_abs_self _).trans small)

theorem Denotes.div (left : a.Denotes x) (right : b.Denotes y) (nonzero : y ≠ 0)
    (small : |x / y| ≤ 2 ^ 127) : (a / b).Denotes (rounded (x / y)) := by
  cases left with
  | finite m u =>
    cases right with
    | finite n v =>
      have units : v ≠ 0 := by
        rintro rfl
        apply nonzero
        cases n <;> simp [signed]
      have isPositive := one_pos
      have same : (u / one / (v / one) : ℚ) = (u * one : ℕ) / v / one := by
        push_cast
        field_simp
      rw [signed_div, same] at small ⊢
      rw [abs_signed] at small
      have divided : Binary32.finite m u / .finite n v = round (m != n) (u * one) v :=
        if_neg units
      rw [divided]
      exact denotes_round (m != n) (u * one) (Nat.pos_of_ne_zero units)
        ((le_abs_self _).trans small)

theorem Denotes.add (left : a.Denotes x) (right : b.Denotes y) (small : |x + y| ≤ 2 ^ 127) :
    (a + b).Denotes (rounded (x + y)) := by
  cases left with
  | finite m u =>
    cases right with
    | finite n v =>
      have same : (signed m (u / one) + signed n (v / one) : ℚ) =
          (signedUnits m u + signedUnits n v : ℤ) / one := by
        push_cast
        rw [signed_div_one, signed_div_one, signedUnits_cast, signedUnits_cast, add_div]
      rw [same] at small ⊢
      change Denotes (if signedUnits m u + signedUnits n v = 0 then _ else _) _
      generalize signedUnits m u + signedUnits n v = sum at small ⊢
      split
      · next none =>
        rw [none, Int.cast_zero, zero_div, rounded_zero]
        exact denotes_zero _
      · exact denotes_round_natAbs sum small

theorem denotes_ofInt (value : ℤ) (small : |(value : ℚ)| ≤ 2 ^ 127) :
    (ofInt value).Denotes (rounded value) := by
  have positive : (0 : ℤ) < one := by exact_mod_cast Nat.two_pow_pos 149
  have sign : decide (value < 0) = decide (value * one < 0) := by
    rw [decide_eq_decide, Int.mul_neg_iff]
    omega
  have magnitude : value.natAbs * one = (value * one).natAbs := (Int.natAbs_mul value one).symm
  have same : (value : ℚ) = (value * one : ℤ) / one := by
    push_cast
    exact (mul_div_cancel_right₀ _ one_pos.ne').symm
  rw [ofInt, sign, magnitude]
  rw [same] at small ⊢
  exact denotes_round_natAbs _ small

theorem denotes_half : half.Denotes (1 / 2) := by
  have denotes := Denotes.finite false (one / 2)
  have same : ((one / 2 : ℕ) : ℚ) / one = 1 / 2 := by
    rw [div_eq_div_iff one_pos.ne' two_ne_zero]
    exact_mod_cast (by decide +kernel : one / 2 * 2 = 1 * one)
  rwa [signed, if_neg (by decide), same] at denotes

/-! ## Thirty-two bits -/

/-- The nearest integer that fits thirty-two bits. -/
def clamped (value : ℤ) : ℤ :=
  max (-2 ^ 31) (min value (2 ^ 31 - 1))

theorem toInt_clamped (value : ℤ) :
    (if value < Int32.minValue.toInt then Int32.minValue
      else if Int32.maxValue.toInt < value then Int32.maxValue
      else Int32.ofInt value).toInt = clamped value := by
  have least : Int32.minValue.toInt = -2 ^ 31 := by decide
  have greatest : Int32.maxValue.toInt = 2 ^ 31 - 1 := by decide
  unfold clamped
  rw [least, greatest]
  split
  · omega
  · split
    · omega
    · rw [Int32.toInt_ofInt_of_le (by omega) (by omega)]
      omega

theorem Denotes.toInt_floorInt32 (denotes : a.Denotes x) : a.floorInt32.toInt = clamped ⌊x⌋ := by
  cases denotes with
  | finite negative units =>
    have floor : ⌊signed negative ((units : ℚ) / one)⌋ = (signedUnits negative units).fdiv one := by
      rw [signed_div_one, ← signedUnits_cast, Rat.floor_intCast_div_natCast,
        Int.fdiv_eq_ediv_of_nonneg _ (Int.natCast_nonneg one)]
    rw [floor]
    exact toInt_clamped _

end Binary32

end RemoteInput
