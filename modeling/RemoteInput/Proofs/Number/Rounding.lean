import Mathlib.Algebra.Order.Field.Basic
import Mathlib.Data.Nat.Cast.Order.Field
import Mathlib.Data.Rat.Floor
import Mathlib.Tactic.FieldSimp
import Mathlib.Tactic.Linarith
import Mathlib.Tactic.Positivity
import RemoteInput.Number.Binary32

/-!
# The nearest number of single precision

`rounded` is the number that an exact result is rounded to, while it is not so large that
it becomes infinite.  No number of the format is nearer to the result:
`abs_rounded_sub_le`; if another is as near, the significand is even:
`even_significand_of_tie`.  So rounding keeps the order of results, and leaves a number of
the format as it is.  It changes a result that is not tiny by one part in `2 ^ 24` at most:
`abs_rounded_sub_le_mul`.
-/

namespace RemoteInput

namespace Binary32

/-- A number of the format but for its bound: a significand of twenty-four bits, in a
place that is no lower than the unit. -/
def Representable (x : ℚ) : Prop :=
  ∃ (significand : ℤ) (place : ℕ), |significand| ≤ 2 ^ 24 ∧ x = significand * 2 ^ place / one

/-- A magnitude with its sign. -/
def signed (negative : Bool) (x : ℚ) : ℚ :=
  if negative then -x else x

/-- The number that is nearest to an exact result, without bound. -/
def rounded (x : ℚ) : ℚ :=
  signed (x < 0) (roundUnits (x.num.natAbs * one) x.den / one)

theorem one_pos : (0 : ℚ) < one := by
  have positive : 0 < one := Nat.two_pow_pos _
  exact_mod_cast positive

/-! ## The last place -/

/-- Twenty-four bits, the last of them in the last place, hold the whole of a number. -/
theorem lt_pow_lastPlace (units : ℕ) : units < 2 ^ 24 * 2 ^ lastPlace units := by
  calc
    units < 2 ^ (units.log2 + 1) := Nat.lt_log2_self
    _ ≤ 2 ^ (24 + lastPlace units) :=
      Nat.pow_le_pow_right (by decide) (by rw [lastPlace]; omega)
    _ = 2 ^ 24 * 2 ^ lastPlace units := Nat.pow_add 2 24 _

/-- If the last place is not the unit, then none of the twenty-four bits is idle. -/
theorem pow_lastPlace_le_of_pos {units : ℕ} (above : 0 < lastPlace units) :
    2 ^ 23 * 2 ^ lastPlace units ≤ units := by
  have log : 23 + lastPlace units = units.log2 := by
    rw [lastPlace] at above ⊢
    omega
  have nonzero : units ≠ 0 := by
    rintro rfl
    cases above
  rw [← Nat.pow_add, log]
  exact Nat.log2_self_le nonzero

/-! ## Rounding a quotient -/

theorem nearest_cases (num den : ℕ) :
    nearest num den = num / den ∧ 2 * (num % den) ≤ den ∨
      nearest num den = num / den + 1 ∧ den ≤ 2 * (num % den) := by
  unfold nearest
  dsimp only
  split
  · omega
  · split
    · omega
    · rcases Nat.mod_two_eq_zero_or_one (num / den) with even | odd
      · omega
      · omega

/-- What rounding to a whole number leaves over, or adds. -/
theorem abs_nearest_sub (num : ℕ) {den : ℕ} (positive : 0 < den) :
    |(nearest num den : ℚ) - num / den| = (min (num % den) (den - num % den) : ℕ) / den := by
  have isPositive : (0 : ℚ) < den := by exact_mod_cast positive
  have below : num % den ≤ den := (Nat.mod_lt num positive).le
  have parts : (num : ℚ) / den = (num / den : ℕ) + (num % den : ℕ) / den := by
    rw [div_eq_iff isPositive.ne', add_mul, div_mul_cancel₀ _ isPositive.ne']
    exact_mod_cast (Nat.div_add_mod' num den).symm
  rw [parts]
  rcases nearest_cases num den with ⟨same, small⟩ | ⟨next, large⟩
  · rw [same, sub_add_cancel_left, abs_neg, abs_of_nonneg (by positivity),
      Nat.min_eq_left (by omega)]
  · have rest : ((num / den + 1 : ℕ) : ℚ) - ((num / den : ℕ) + (num % den : ℕ) / den) =
        (den - num % den : ℕ) / den := by
      rw [Nat.cast_sub below, sub_div, div_self isPositive.ne']
      push_cast
      ring
    rw [next, rest, abs_of_nonneg (by positivity), Nat.min_eq_right (by omega)]

/-- The nearest whole number is half a unit away at most. -/
theorem abs_nearest_sub_le (num : ℕ) {den : ℕ} (positive : 0 < den) :
    |(nearest num den : ℚ) - num / den| ≤ 1 / 2 := by
  rw [abs_nearest_sub num positive,
    div_le_div_iff₀ (by exact_mod_cast positive) two_pos]
  exact_mod_cast (by omega : min (num % den) (den - num % den) * 2 ≤ 1 * den)

private theorem one_le_abs_sub {m n : ℕ} (differ : m ≠ n) : (1 : ℚ) ≤ |(m : ℚ) - n| := by
  have apart : (m : ℤ) - n ≠ 0 := by omega
  exact_mod_cast Int.one_le_abs apart

/-- The whole numbers are one apart, so none is nearer than one half a unit away. -/
private theorem abs_sub_le_of_le_half {x : ℚ} {n : ℕ} (near : |(n : ℚ) - x| ≤ 1 / 2) (k : ℕ) :
    |(n : ℚ) - x| ≤ |(k : ℚ) - x| := by
  by_cases same : k = n
  · rw [same]
  · have apart := one_le_abs_sub same
    have between := abs_sub_le (k : ℚ) x n
    rw [abs_sub_comm x n] at between
    linarith

/-- If another whole number is as near, the even one of both is taken. -/
theorem even_nearest_of_tie {num den k : ℕ} (positive : 0 < den) (other : k ≠ nearest num den)
    (asNear : |(k : ℚ) - num / den| ≤ |(nearest num den : ℚ) - num / den|) :
    Even (nearest num den) := by
  have isPositive : (0 : ℚ) < den := by exact_mod_cast positive
  have half : 1 / 2 ≤ |(nearest num den : ℚ) - num / den| := by
    have apart := one_le_abs_sub other
    have between := abs_sub_le (k : ℚ) (num / den) (nearest num den)
    rw [abs_sub_comm (num / den : ℚ) (nearest num den)] at between
    linarith
  rw [abs_nearest_sub num positive, div_le_div_iff₀ two_pos isPositive] at half
  have tie : 1 * den ≤ min (num % den) (den - num % den) * 2 := by exact_mod_cast half
  have goesUp : nearest num den = num / den + num / den % 2 := by
    unfold nearest
    dsimp only
    rw [if_neg (by omega), if_neg (by omega)]
  rw [goesUp, Nat.even_iff]
  omega

theorem nearest_mul_right (num den : ℕ) {factor : ℕ} (positive : 0 < factor) :
    nearest (num * factor) (den * factor) = nearest num den := by
  have doubled : 2 * (num % den * factor) = 2 * (num % den) * factor := (Nat.mul_assoc ..).symm
  unfold nearest
  rw [Nat.mul_div_mul_right _ _ positive, Nat.mul_mod_mul_right]
  simp only [doubled, Nat.mul_lt_mul_right positive]

theorem roundUnits_mul_right (num den : ℕ) {factor : ℕ} (positive : 0 < factor) :
    roundUnits (num * factor) (den * factor) = roundUnits num den := by
  unfold roundUnits
  dsimp only
  rw [Nat.mul_div_mul_right _ _ positive, Nat.mul_right_comm, nearest_mul_right _ _ positive]

/-- Equal quotients are rounded alike. -/
theorem roundUnits_congr {num den num' den' : ℕ} (positive : 0 < den) (positive' : 0 < den')
    (same : num * den' = num' * den) : roundUnits num den = roundUnits num' den' := by
  rw [← roundUnits_mul_right num den positive', ← roundUnits_mul_right num' den' positive, same,
    Nat.mul_comm den den']

theorem roundUnits_eq (num den : ℕ) :
    roundUnits num den =
      nearest num (den * 2 ^ lastPlace (num / den)) * 2 ^ lastPlace (num / den) :=
  rfl

section

variable (num : ℕ) {den : ℕ} (positive : 0 < den)

include positive

private theorem abs_multiple_sub (k : ℕ) :
    |((k * 2 ^ lastPlace (num / den) : ℕ) : ℚ) - num / den| =
      |(k : ℚ) - num / (den * 2 ^ lastPlace (num / den) : ℕ)| * 2 ^ lastPlace (num / den) := by
  have place : (0 : ℚ) < 2 ^ lastPlace (num / den) := by positivity
  have isPositive : (0 : ℚ) < den := by exact_mod_cast positive
  have scaled : ((k * 2 ^ lastPlace (num / den) : ℕ) : ℚ) - num / den =
      ((k : ℚ) - num / (den * 2 ^ lastPlace (num / den) : ℕ)) * 2 ^ lastPlace (num / den) := by
    push_cast
    field_simp
  rw [scaled, abs_mul, abs_of_pos place]

theorem abs_roundUnits_sub_le :
    |(roundUnits num den : ℚ) - num / den| ≤ 2 ^ lastPlace (num / den) / 2 := by
  have near := abs_nearest_sub_le num
    (Nat.mul_pos positive (Nat.two_pow_pos (lastPlace (num / den))))
  rw [roundUnits_eq, abs_multiple_sub num positive]
  calc
    _ ≤ 1 / 2 * 2 ^ lastPlace (num / den) := mul_le_mul_of_nonneg_right near (by positivity)
    _ = 2 ^ lastPlace (num / den) / 2 := by ring

/-- A rounded quotient is the nearest multiple of its last place. -/
private theorem abs_roundUnits_sub_le_multiple (k : ℕ) :
    |(roundUnits num den : ℚ) - num / den| ≤
      |((k * 2 ^ lastPlace (num / den) : ℕ) : ℚ) - num / den| := by
  have near := abs_nearest_sub_le num
    (Nat.mul_pos positive (Nat.two_pow_pos (lastPlace (num / den))))
  rw [roundUnits_eq, abs_multiple_sub num positive, abs_multiple_sub num positive]
  exact mul_le_mul_of_nonneg_right (abs_sub_le_of_le_half near k) (by positivity)

omit positive in
/-- A significand of twenty-four bits, in whatever place, is a multiple of the last place of
a quotient, or some multiple is nearer. -/
private theorem exists_multiple {significand : ℕ} (fits : significand ≤ 2 ^ 24) (place : ℕ) :
    ∃ k : ℕ, k * 2 ^ lastPlace (num / den) = significand * 2 ^ place ∨
      |((k * 2 ^ lastPlace (num / den) : ℕ) : ℚ) - num / den| <
        |((significand * 2 ^ place : ℕ) : ℚ) - num / den| := by
  by_cases inside : lastPlace (num / den) ≤ place
  · refine ⟨significand * 2 ^ (place - lastPlace (num / den)), .inl ?_⟩
    rw [Nat.mul_assoc, ← Nat.pow_add, Nat.sub_add_cancel inside]
  · -- Below the last place, the significand is below every number with that last place.
    refine ⟨2 ^ 23, ?_⟩
    have below : significand * 2 ^ place ≤ 2 ^ 23 * 2 ^ lastPlace (num / den) := by
      calc
        significand * 2 ^ place ≤ 2 ^ 24 * 2 ^ place := Nat.mul_le_mul_right _ fits
        _ = 2 ^ 23 * 2 ^ (place + 1) := by ring
        _ ≤ 2 ^ 23 * 2 ^ lastPlace (num / den) :=
          Nat.mul_le_mul_left _ (Nat.pow_le_pow_right (by decide) (by omega))
    have above : ((2 ^ 23 * 2 ^ lastPlace (num / den) : ℕ) : ℚ) ≤ num / den := by
      have whole : 2 ^ 23 * 2 ^ lastPlace (num / den) ≤ num / den :=
        pow_lastPlace_le_of_pos (by omega)
      exact (Nat.cast_le.mpr whole).trans Nat.cast_div_le
    rcases below.eq_or_lt with same | less
    · exact .inl same.symm
    · right
      have isBelow : ((significand * 2 ^ place : ℕ) : ℚ) <
          (2 ^ 23 * 2 ^ lastPlace (num / den) : ℕ) := Nat.cast_lt.mpr less
      rw [abs_of_nonpos (sub_nonpos.mpr above),
        abs_of_nonpos (sub_nonpos.mpr (isBelow.le.trans above))]
      linarith

/-- No significand of twenty-four bits, in whatever place, is nearer to a quotient. -/
theorem abs_roundUnits_sub_le_significand {significand : ℕ} (fits : significand ≤ 2 ^ 24)
    (place : ℕ) :
    |(roundUnits num den : ℚ) - num / den| ≤
      |((significand * 2 ^ place : ℕ) : ℚ) - num / den| := by
  obtain ⟨k, same | nearer⟩ := @exists_multiple num den significand fits place
  · rw [← same]
    exact abs_roundUnits_sub_le_multiple num positive k
  · exact (abs_roundUnits_sub_le_multiple num positive k).trans nearer.le

/-- If another significand, in whatever place, is as near, an even one is taken. -/
theorem even_significand_of_tie {significand place : ℕ} (fits : significand ≤ 2 ^ 24)
    (other : significand * 2 ^ place ≠ roundUnits num den)
    (asNear : |((significand * 2 ^ place : ℕ) : ℚ) - num / den| ≤
      |(roundUnits num den : ℚ) - num / den|) :
    Even (nearest num (den * 2 ^ lastPlace (num / den))) := by
  obtain ⟨k, same | nearer⟩ := @exists_multiple num den significand fits place
  · rw [← same, roundUnits_eq] at other asNear
    rw [abs_multiple_sub num positive, abs_multiple_sub num positive] at asNear
    have differ : k ≠ nearest num (den * 2 ^ lastPlace (num / den)) := by
      rintro rfl
      exact other rfl
    exact even_nearest_of_tie (Nat.mul_pos positive (Nat.two_pow_pos _)) differ
      (le_of_mul_le_mul_right asNear (by positivity))
  · have atMost := abs_roundUnits_sub_le_multiple num positive k
    exact absurd (atMost.trans_lt nearer) asNear.not_gt

/-- The error is a part in `2 ^ 24` at most, if twenty-four bits are there. -/
theorem abs_roundUnits_sub_le_mul (normal : (2 ^ 23 : ℚ) ≤ num / den) :
    |(roundUnits num den : ℚ) - num / den| ≤ num / den / 2 ^ 24 := by
  have isPositive : (0 : ℚ) < den := by exact_mod_cast positive
  have filled : ((2 ^ 23 * 2 ^ lastPlace (num / den) : ℕ) : ℚ) ≤ num / den := by
    by_cases above : 0 < lastPlace (num / den)
    · exact (Nat.cast_le.mpr (pow_lastPlace_le_of_pos above)).trans Nat.cast_div_le
    · rw [Nat.eq_zero_of_not_pos above]
      rwa [Nat.pow_zero, Nat.mul_one, Nat.cast_pow, Nat.cast_ofNat]
  have error := abs_roundUnits_sub_le num positive
  push_cast at filled
  linarith

omit positive in
theorem exists_significand :
    ∃ significand ≤ 2 ^ 24, roundUnits num den = significand * 2 ^ lastPlace (num / den) := by
  refine ⟨_, ?_, roundUnits_eq num den⟩
  have whole : num / (den * 2 ^ lastPlace (num / den)) < 2 ^ 24 := by
    rw [← Nat.div_div_eq_div_mul, Nat.div_lt_iff_lt_mul (Nat.two_pow_pos _)]
    exact lt_pow_lastPlace _
  rcases nearest_cases num (den * 2 ^ lastPlace (num / den)) with ⟨same, _⟩ | ⟨next, _⟩
  · omega
  · omega

end

/-! ## Rounding a number -/

theorem abs_signed (negative : Bool) (x : ℚ) : |signed negative x| = |x| := by
  cases negative with
  | false => rfl
  | true => exact abs_neg x

theorem signed_abs (x : ℚ) : signed (x < 0) |x| = x := by
  unfold signed
  by_cases negative : x < 0
  · rw [if_pos (by simpa using negative), abs_of_neg negative, neg_neg]
  · rw [if_neg (by simpa using negative), abs_of_nonneg (not_lt.mp negative)]

theorem signed_sub (negative : Bool) (x y : ℚ) :
    signed negative x - signed negative y = signed negative (x - y) := by
  cases negative with
  | false => rfl
  | true => exact neg_sub_neg x y |>.trans (neg_sub x y).symm

/-- The magnitude of a number, as the quotient that is rounded. -/
theorem abs_eq_quotient (x : ℚ) :
    |x| = ((x.num.natAbs * one : ℕ) : ℚ) / x.den / one := by
  have isPositive := one_pos
  have whole : |x| = (x.num.natAbs : ℚ) / x.den := by
    rw [Nat.cast_natAbs, Int.cast_abs, ← Nat.abs_cast x.den, ← abs_div, Rat.num_div_den]
  rw [whole]
  push_cast
  field_simp

private theorem abs_rounded_sub (x : ℚ) :
    |rounded x - x| =
      |(roundUnits (x.num.natAbs * one) x.den : ℚ) - (x.num.natAbs * one : ℕ) / x.den| / one := by
  nth_rewrite 2 [← signed_abs x]
  rw [rounded, signed_sub, abs_signed, abs_eq_quotient x, ← sub_div, abs_div,
    abs_of_pos one_pos]

theorem Representable.exists_abs {x : ℚ} (representable : Representable x) :
    ∃ (significand place : ℕ), significand ≤ 2 ^ 24 ∧
      |x| = ((significand * 2 ^ place : ℕ) : ℚ) / one := by
  obtain ⟨significand, place, fits, rfl⟩ := representable
  refine ⟨significand.natAbs, place, by rwa [← Int.ofNat_le, Int.natCast_natAbs], ?_⟩
  rw [abs_div, abs_of_pos one_pos, abs_mul, abs_of_pos (by positivity : (0 : ℚ) < 2 ^ place)]
  push_cast [Nat.cast_natAbs]
  rfl

/-- No number of the format is nearer to a result than what it is rounded to. -/
theorem abs_rounded_sub_le {z : ℚ} (representable : Representable z) (x : ℚ) :
    |rounded x - x| ≤ |z - x| := by
  obtain ⟨significand, place, fits, magnitude⟩ := representable.exists_abs
  calc
    |rounded x - x| =
        |(roundUnits (x.num.natAbs * one) x.den : ℚ) - (x.num.natAbs * one : ℕ) / x.den| / one :=
      abs_rounded_sub x
    _ ≤ |((significand * 2 ^ place : ℕ) : ℚ) - (x.num.natAbs * one : ℕ) / x.den| / one :=
      div_le_div_of_nonneg_right
        (abs_roundUnits_sub_le_significand _ x.den_pos fits place) one_pos.le
    _ = abs (|z| - |x|) := by
      rw [magnitude, abs_eq_quotient x, ← sub_div, abs_div, abs_of_pos one_pos]
    _ ≤ |z - x| := abs_abs_sub_abs_le _ _

theorem Representable.neg {x : ℚ} (representable : Representable x) : Representable (-x) := by
  obtain ⟨significand, place, fits, rfl⟩ := representable
  refine ⟨-significand, place, by rwa [abs_neg], ?_⟩
  push_cast
  ring

theorem representable_rounded (x : ℚ) : Representable (rounded x) := by
  obtain ⟨significand, fits, same⟩ := @exists_significand (x.num.natAbs * one) x.den
  have magnitude : Representable (roundUnits (x.num.natAbs * one) x.den / one) := by
    refine ⟨significand, lastPlace (x.num.natAbs * one / x.den), ?_, ?_⟩
    · rw [Nat.abs_cast]
      exact_mod_cast fits
    · rw [same]
      push_cast
      rfl
  unfold rounded signed
  split
  · exact magnitude.neg
  · exact magnitude

/-- A number of the format is left as it is. -/
theorem rounded_of_representable {x : ℚ} (representable : Representable x) : rounded x = x := by
  have near := abs_rounded_sub_le representable x
  rw [sub_self, abs_zero] at near
  exact sub_eq_zero.mp (abs_nonpos_iff.mp near)

theorem rounded_rounded (x : ℚ) : rounded (rounded x) = rounded x :=
  rounded_of_representable (representable_rounded x)

/-- The nearer one of two numbers, if it is the greater, is no less than the middle. -/
private theorem add_le_of_abs_sub_le {a b x : ℚ} (less : a < b) (nearer : |b - x| ≤ |a - x|) :
    a + b ≤ 2 * x := by
  have squares := sq_le_sq.mpr nearer
  nlinarith

private theorem le_add_of_abs_sub_le {a b x : ℚ} (less : a < b) (nearer : |a - x| ≤ |b - x|) :
    2 * x ≤ a + b := by
  have squares := sq_le_sq.mpr nearer
  nlinarith

/-- Rounding keeps order: if two results changed places, one of them would have been
nearer to what the other is rounded to. -/
theorem rounded_mono : Monotone rounded := by
  intro x y ordered
  rcases ordered.eq_or_lt with rfl | before
  · exact le_rfl
  · by_contra crossed
    rw [not_le] at crossed
    have low := add_le_of_abs_sub_le crossed (abs_rounded_sub_le (representable_rounded y) x)
    have high := le_add_of_abs_sub_le crossed (abs_rounded_sub_le (representable_rounded x) y)
    linarith

theorem rounded_zero : rounded 0 = 0 :=
  rounded_of_representable ⟨0, 0, by decide, by simp⟩

theorem rounded_neg (x : ℚ) : rounded (-x) = -rounded x := by
  have magnitude : roundUnits ((-x).num.natAbs * one) (-x).den =
      roundUnits (x.num.natAbs * one) x.den := by
    rw [Rat.num_neg_eq_neg_num, Int.natAbs_neg, Rat.den_neg_eq_den]
  rcases lt_trichotomy x 0 with negative | rfl | positive
  · rw [rounded, rounded, magnitude, decide_eq_true negative,
      decide_eq_false (not_lt.mpr (neg_nonneg.mpr negative.le))]
    exact (neg_neg _).symm
  · rw [neg_zero, rounded_zero, neg_zero]
  · rw [rounded, rounded, magnitude, decide_eq_true (neg_lt_zero.mpr positive),
      decide_eq_false (not_lt.mpr positive.le)]
    rfl

/-- A result that is not tiny changes by one part in `2 ^ 24` at most. -/
theorem abs_rounded_sub_le_mul {x : ℚ} (normal : (2 ^ 23 : ℚ) / one ≤ |x|) :
    |rounded x - x| ≤ |x| / 2 ^ 24 := by
  have quotient := abs_eq_quotient x
  have filled : (2 ^ 23 : ℚ) ≤ (x.num.natAbs * one : ℕ) / x.den := by
    rw [quotient] at normal
    exact (div_le_div_iff_of_pos_right one_pos).mp normal
  have error := abs_roundUnits_sub_le_mul (x.num.natAbs * one) x.den_pos filled
  rw [abs_rounded_sub, quotient, div_right_comm]
  exact div_le_div_of_nonneg_right error one_pos.le

end Binary32

end RemoteInput
