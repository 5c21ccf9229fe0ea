import Mathlib.Data.Int.ConditionallyCompleteOrder
import Mathlib.Tactic.NormNum
import RemoteInput.Proofs.Number.Arithmetic
import RemoteInput.SwipePath

/-!
# Interpolated coordinates

A coordinate between two others is computed with five roundings: of the number of steps
made, of the number of all steps, of the share of the way, of the distance, and of the way
travelled.  One half is added, which is rounded too, and the integer below is added to the
first coordinate.  Here this is said with rational numbers: `toInt_interpolate`.
-/

namespace RemoteInput

open Binary32

namespace SwipePath

/-- The share of the way after some steps of a number of them. -/
def share (steps index : ℕ) : ℚ :=
  rounded (rounded index / rounded steps)

/-- The way travelled before one half is added. -/
def way (distance : ℤ) (share : ℚ) : ℚ :=
  rounded (rounded distance * share)

/-- The way travelled, in whole pixels. -/
def travelled (distance : ℤ) (share : ℚ) : ℤ :=
  ⌊rounded (way distance share + 1 / 2)⌋

/-! ## The share of the way -/

theorem rounded_one : rounded 1 = 1 :=
  rounded_of_representable (representable_pow 0)

theorem one_le_rounded {x : ℚ} (some : 1 ≤ x) : 1 ≤ rounded x := by
  rw [← rounded_one]
  exact rounded_mono some

section

variable {steps : ℕ} (positive : 0 < steps)

include positive

theorem rounded_steps_pos : 0 < rounded steps := by
  have one_le : 1 ≤ rounded steps := one_le_rounded (by exact_mod_cast positive)
  linarith

theorem share_mono : Monotone (share steps) := by
  intro index later ordered
  apply rounded_mono
  apply div_le_div_of_nonneg_right _ (rounded_steps_pos positive).le
  exact rounded_mono (by exact_mod_cast ordered)

omit positive in
theorem share_zero : share steps 0 = 0 := by
  rw [share, Nat.cast_zero, rounded_zero, zero_div, rounded_zero]

theorem share_nonneg (index : ℕ) : 0 ≤ share steps index := by
  rw [← @share_zero steps]
  exact share_mono positive (Nat.zero_le index)

theorem quotient_le_one {index : ℕ} (inside : index ≤ steps) :
    rounded index / rounded steps ≤ 1 := by
  rw [div_le_one (rounded_steps_pos positive)]
  exact rounded_mono (by exact_mod_cast inside)

theorem share_le_one {index : ℕ} (inside : index ≤ steps) : share steps index ≤ 1 := by
  rw [← rounded_one]
  exact rounded_mono (quotient_le_one positive inside)

end

theorem denotes_progress (path : SwipePath) {index : ℕ} (inside : index ≤ max 1 path.steps)
    (few : max 1 path.steps ≤ 2 ^ 127) :
    (path.progress index).Denotes (share (max 1 path.steps) index) := by
  have positive : 0 < max 1 path.steps := by omega
  have small : ∀ count : ℕ, count ≤ 2 ^ 127 → |((count : ℤ) : ℚ)| ≤ 2 ^ 127 := by
    intro count below
    rw [Int.cast_natCast, Nat.abs_cast]
    exact_mod_cast below
  have quotient := quotient_le_one positive inside
  have nonnegative : 0 ≤ rounded index / rounded (max 1 path.steps : ℕ) :=
    div_nonneg (rounded_nonneg (Nat.cast_nonneg _)) (rounded_steps_pos positive).le
  apply Denotes.div (denotes_ofInt _ (small index (inside.trans few)))
    (denotes_ofInt _ (small _ few))
  · exact (rounded_steps_pos positive).ne'
  · push_cast at *
    rw [abs_of_nonneg nonnegative]
    linarith

/-! ## The way travelled -/

theorem representable_half : Representable (1 / 2) := by
  refine ⟨1, 148, by decide, ?_⟩
  rw [one]
  norm_num

theorem rounded_half : rounded (1 / 2) = 1 / 2 :=
  rounded_of_representable representable_half

section

variable {distance : ℤ} {share : ℚ}

theorem way_zero : way distance 0 = 0 := by
  rw [way, mul_zero, rounded_zero]

theorem way_mono (forward : 0 ≤ distance) : Monotone (way distance) := by
  intro share later ordered
  have nonnegative : 0 ≤ rounded distance := rounded_nonneg (by exact_mod_cast forward)
  exact rounded_mono (mul_le_mul_of_nonneg_left ordered nonnegative)

theorem way_antitone (backward : distance ≤ 0) : Antitone (way distance) := by
  intro share later ordered
  have nonpositive : rounded distance ≤ 0 := by
    rw [← rounded_zero]
    exact rounded_mono (by exact_mod_cast backward)
  exact rounded_mono (mul_le_mul_of_nonpos_left ordered nonpositive)

/-- To round the way with one half added is to go up or down, and less than a pixel
beyond. -/
theorem rounded_add_half {x : ℚ} (representable : Representable x) :
    x ≤ rounded (x + 1 / 2) ∧ rounded (x + 1 / 2) ≤ x + 1 := by
  constructor
  · nth_rewrite 1 [← rounded_of_representable representable]
    exact rounded_mono (by linarith)
  · have nearest := abs_rounded_sub_le representable (x + 1 / 2)
    rw [sub_add_cancel_left, abs_neg, abs_of_pos (one_half_pos : (0 : ℚ) < 1 / 2),
      abs_le] at nearest
    linarith

theorem lt_travelled (distance : ℤ) (share : ℚ) :
    way distance share - 1 < travelled distance share := by
  have above := (rounded_add_half (representable_rounded (rounded distance * share))).1
  have floor := Int.lt_floor_add_one (rounded (way distance share + 1 / 2))
  rw [travelled]
  change way distance share ≤ rounded (way distance share + 1 / 2) at above
  linarith

theorem travelled_le (distance : ℤ) (share : ℚ) :
    travelled distance share ≤ way distance share + 1 := by
  have below := (rounded_add_half (representable_rounded (rounded distance * share))).2
  have floor := Int.floor_le (rounded (way distance share + 1 / 2))
  rw [travelled]
  change rounded (way distance share + 1 / 2) ≤ way distance share + 1 at below
  linarith

theorem travelled_mono (forward : 0 ≤ distance) : Monotone (travelled distance) := by
  intro share later ordered
  exact Int.floor_mono (rounded_mono (add_le_add_left (way_mono forward ordered) _))

theorem travelled_antitone (backward : distance ≤ 0) : Antitone (travelled distance) := by
  intro share later ordered
  exact Int.floor_mono (rounded_mono (add_le_add_left (way_antitone backward ordered) _))

theorem travelled_zero : travelled distance 0 = 0 := by
  rw [travelled, way_zero, zero_add, rounded_half]
  norm_num

theorem travelled_nonneg (forward : 0 ≤ distance) (started : 0 ≤ share) :
    0 ≤ travelled distance share := by
  calc
    0 = travelled distance 0 := travelled_zero.symm
    _ ≤ travelled distance share := travelled_mono forward started

theorem travelled_nonpos (backward : distance ≤ 0) (started : 0 ≤ share) :
    travelled distance share ≤ 0 := by
  calc
    travelled distance share ≤ travelled distance 0 := travelled_antitone backward started
    _ = 0 := travelled_zero

end

/-! ## The coordinate reached -/

theorem toInt_clampedSum (a b : Int32) : (clampedSum a b).toInt = clamped (a.toInt + b.toInt) :=
  toInt_clamped _

theorem abs_distance_le (first last : Int32) :
    |((last.toInt - first.toInt : ℤ) : ℚ)| ≤ 2 ^ 32 := by
  have low := first.le_toInt
  have high := first.toInt_lt
  have low' := last.le_toInt
  have high' := last.toInt_lt
  rw [abs_le]
  constructor
  · exact_mod_cast (by omega : (-2 ^ 32 : ℤ) ≤ last.toInt - first.toInt)
  · exact_mod_cast (by omega : last.toInt - first.toInt ≤ (2 ^ 32 : ℤ))

theorem abs_rounded_mul_le {distance : ℤ} {share : ℚ} (short : |(distance : ℚ)| ≤ 2 ^ 32)
    (started : 0 ≤ share) (within : share ≤ 1) : |rounded distance * share| ≤ 2 ^ 32 := by
  rw [abs_mul, abs_of_nonneg started]
  calc
    |rounded distance| * share ≤ 2 ^ 32 * 1 :=
      mul_le_mul (abs_rounded_le (representable_pow 32) short) within started (by positivity)
    _ = 2 ^ 32 := mul_one _

/-- What is interpolated, in rational numbers. -/
theorem toInt_interpolate (first last : Int32) {progress : Binary32} {share : ℚ}
    (denotes : progress.Denotes share) (started : 0 ≤ share) (within : share ≤ 1) :
    (interpolate first last progress).toInt =
      clamped (first.toInt + clamped (travelled (last.toInt - first.toInt) share)) := by
  have short := abs_distance_le first last
  have shortProduct := abs_rounded_mul_le short started within
  have shortWay : |way (last.toInt - first.toInt) share| ≤ 2 ^ 32 :=
    abs_rounded_le (representable_pow 32) shortProduct
  have isDistance : (Binary32.ofInt (last.toInt - first.toInt)).Denotes
      (rounded ((last.toInt - first.toInt : ℤ) : ℚ)) :=
    denotes_ofInt _ (short.trans (by norm_num))
  have isWay := isDistance.mul denotes (shortProduct.trans (by norm_num))
  have isHalfMore := isWay.add denotes_half (by
    rw [abs_le] at shortWay ⊢
    change -2 ^ 127 ≤ way _ _ + 1 / 2 ∧ way _ _ + 1 / 2 ≤ 2 ^ 127
    constructor <;> linarith)
  rw [interpolate, toInt_clampedSum, isHalfMore.toInt_floorInt32]
  rfl

end SwipePath

end RemoteInput
