import Mathlib.Algebra.Order.Group.MinMax
import RemoteInput.Proofs.SwipePath.Waypoints

/-!
# The straight line

Every rounding of a waypoint changes it by a part in `2 ^ 24`, and all of them together by
less than a part in `2 ^ 20` of the distance.  So a waypoint is near the straight line,
unless the way travelled does not fit thirty-two bits: then it is cut off, and the waypoint
is as far behind the line as the way was too long.
-/

namespace RemoteInput

open Binary32

/-- Two numbers differ by some parts in `2 ^ 24` of the second one at most. -/
def Close (parts : ℕ) (x y : ℚ) : Prop :=
  |x - y| ≤ parts / 2 ^ 24 * |y|

namespace Close

variable {m n : ℕ} {x y u v : ℚ}

theorem refl (x : ℚ) : Close 0 x x := by
  simp [Close]

/-- What is close is no more than twice as large, and no less than half as large. -/
theorem abs_bounds (close : Close n x y) (few : n ≤ 2 ^ 23) : |y| / 2 ≤ |x| ∧ |x| ≤ 2 * |y| := by
  have part : (n : ℚ) / 2 ^ 24 ≤ 1 / 2 := by
    rw [div_le_div_iff₀ (by positivity) two_pos]
    exact_mod_cast (by omega : n * 2 ≤ 1 * 2 ^ 24)
  have near : |x - y| ≤ 1 / 2 * |y| := close.trans (mul_le_mul_of_nonneg_right part (abs_nonneg y))
  have above := abs_sub_abs_le_abs_sub x y
  have below := abs_sub_abs_le_abs_sub y x
  rw [abs_sub_comm y x] at below
  constructor <;> linarith

/-- Rounding adds two parts, if the number is not tiny. -/
theorem rounded (close : Close n x y) (few : n ≤ 2 ^ 23) (large : (2 ^ 24 : ℚ) / one ≤ |y|) :
    Close (n + 2) (rounded x) y := by
  obtain ⟨half, twice⟩ := close.abs_bounds few
  have normal : (2 ^ 23 : ℚ) / one ≤ |x| := by
    calc
      (2 ^ 23 : ℚ) / one = 2 ^ 24 / one / 2 := by ring
      _ ≤ |y| / 2 := by linarith
      _ ≤ |x| := half
  have error := abs_rounded_sub_le_mul normal
  unfold Close at *
  calc
    |Binary32.rounded x - y| ≤ |Binary32.rounded x - x| + |x - y| := abs_sub_le _ _ _
    _ ≤ |x| / 2 ^ 24 + n / 2 ^ 24 * |y| := add_le_add error close
    _ ≤ (n + 2 : ℕ) / 2 ^ 24 * |y| := by
      push_cast
      linarith

theorem mul (left : Close m x y) (right : Close n u v) (few : m * n ≤ 2 ^ 24) :
    Close (m + n + 1) (x * u) (y * v) := by
  have magnitude : |u| ≤ |v| + n / 2 ^ 24 * |v| := by
    have difference := abs_sub_abs_le_abs_sub u v
    unfold Close at right
    linarith
  have both : (m : ℚ) / 2 ^ 24 * (n / 2 ^ 24) ≤ 1 / 2 ^ 24 := by
    have isFew : (m * n : ℚ) ≤ 2 ^ 24 := by exact_mod_cast few
    rw [div_mul_div_comm, div_le_div_iff₀ (by positivity) (by positivity)]
    linarith
  have nonnegative : 0 ≤ |y| * |v| := by positivity
  calc
    |x * u - y * v| = |(x - y) * u + y * (u - v)| := by ring_nf
    _ ≤ |x - y| * |u| + |y| * |u - v| := by
      rw [← abs_mul, ← abs_mul]
      exact abs_add_le _ _
    _ ≤ m / 2 ^ 24 * |y| * (|v| + n / 2 ^ 24 * |v|) + |y| * (n / 2 ^ 24 * |v|) :=
      add_le_add (mul_le_mul left magnitude (abs_nonneg u) (by positivity))
        (mul_le_mul_of_nonneg_left right (abs_nonneg y))
    _ = (m / 2 ^ 24 + n / 2 ^ 24 + m / 2 ^ 24 * (n / 2 ^ 24)) * (|y| * |v|) := by ring
    _ ≤ (m / 2 ^ 24 + n / 2 ^ 24 + 1 / 2 ^ 24) * (|y| * |v|) :=
      mul_le_mul_of_nonneg_right (by linarith) nonnegative
    _ = (m + n + 1 : ℕ) / 2 ^ 24 * |y * v| := by
      rw [abs_mul]
      push_cast
      ring

theorem div (left : Close m x y) (right : Close n u v) (few : n ≤ 2 ^ 23) (nonzero : v ≠ 0) :
    Close (2 * (m + n)) (x / u) (y / v) := by
  have divisor : 0 < |v| := abs_pos.mpr nonzero
  have half := (right.abs_bounds few).1
  have quotient : 0 < |u| := by linarith
  have isQuotient : u ≠ 0 := abs_pos.mp quotient
  calc
    |x / u - y / v| = |(x - y) * v + y * (v - u)| / (|u| * |v|) := by
      rw [← abs_mul, ← abs_div]
      congr 1
      field_simp
      ring
    _ ≤ (m / 2 ^ 24 * |y| * |v| + |y| * (n / 2 ^ 24 * |v|)) / (|u| * |v|) := by
      apply div_le_div_of_nonneg_right _ (by positivity)
      apply (abs_add_le _ _).trans
      rw [abs_mul, abs_mul, abs_sub_comm v u]
      exact add_le_add (mul_le_mul_of_nonneg_right left divisor.le)
        (mul_le_mul_of_nonneg_left right (abs_nonneg y))
    _ = (m + n) / 2 ^ 24 * |y| * (1 / |u|) := by
      field_simp
    _ ≤ (m + n) / 2 ^ 24 * |y| * (2 / |v|) := by
      apply mul_le_mul_of_nonneg_left _ (by positivity)
      rw [div_le_div_iff₀ quotient divisor]
      linarith
    _ = (2 * (m + n) : ℕ) / 2 ^ 24 * |y / v| := by
      rw [abs_div]
      push_cast
      ring

end Close

namespace SwipePath

/-! ## The way travelled -/

/-- What is no less than one step of the most that there are is not tiny. -/
private theorem large_of_le {x : ℚ} (large : 1 / 2 ^ 31 ≤ |x|) : (2 ^ 24 : ℚ) / one ≤ |x| := by
  apply le_trans _ large
  rw [one]
  norm_num

private theorem large_of_one_le {x : ℚ} (some : 1 ≤ |x|) : (2 ^ 24 : ℚ) / one ≤ |x| :=
  large_of_le (by linarith)

section

variable {steps index : ℕ} (few : steps ≤ 2 ^ 31) (passed : 1 ≤ index) (inside : index ≤ steps)

include few passed inside

theorem one_div_le_quotient : 1 / 2 ^ 31 ≤ |(index / steps : ℚ)| := by
  have positive : (0 : ℚ) < steps := by exact_mod_cast (by omega : 0 < steps)
  rw [abs_of_nonneg (by positivity), div_le_div_iff₀ (by positivity) positive]
  exact_mod_cast (by omega : 1 * steps ≤ index * 2 ^ 31)

/-- The share of the way takes three roundings. -/
theorem close_share : Close 10 (share steps index) (index / steps) := by
  have some : ∀ count : ℕ, 1 ≤ count → (2 ^ 24 : ℚ) / one ≤ |(count : ℚ)| := by
    intro count positive
    apply large_of_one_le
    rw [Nat.abs_cast]
    exact_mod_cast positive
  have isIndex := (Close.refl (index : ℚ)).rounded (by decide) (some index passed)
  have isSteps := (Close.refl (steps : ℚ)).rounded (by decide) (some steps (by omega))
  have nonzero : (steps : ℚ) ≠ 0 := Nat.cast_ne_zero.mpr (by omega)
  exact (isIndex.div isSteps (by decide) nonzero).rounded (by decide)
    (large_of_le (one_div_le_quotient few passed inside))

/-- The way takes two roundings more. -/
theorem close_way (distance : ℤ) :
    Close 15 (way distance (share steps index)) (distance * (index / steps)) := by
  by_cases still : distance = 0
  · rw [still, way, Int.cast_zero, rounded_zero, zero_mul, zero_mul, rounded_zero]
    simp [Close]
  · have moves : 1 ≤ |(distance : ℚ)| := by exact_mod_cast Int.one_le_abs still
    have isDistance := (Close.refl (distance : ℚ)).rounded (by decide) (large_of_one_le moves)
    have isProduct := isDistance.mul (close_share few passed inside) (by decide)
    apply isProduct.rounded (by decide) (large_of_le _)
    rw [abs_mul]
    calc
      (1 / 2 ^ 31 : ℚ) ≤ 1 * |(index / steps : ℚ)| := by
        rw [one_mul]
        exact one_div_le_quotient few passed inside
      _ ≤ |(distance : ℚ)| * |(index / steps : ℚ)| :=
        mul_le_mul_of_nonneg_right moves (abs_nonneg _)

/-- A pixel more is lost when the way is cut to whole pixels. -/
theorem abs_travelled_sub_le (distance : ℤ) :
    |(travelled distance (share steps index) : ℚ) - distance * (index / steps)| ≤
      1 + |(distance : ℚ)| / 2 ^ 20 := by
  have close := close_way few passed inside distance
  have above := lt_travelled distance (share steps index)
  have below := travelled_le distance (share steps index)
  have pixel : |(travelled distance (share steps index) : ℚ) -
      way distance (share steps index)| ≤ 1 := by
    rw [abs_le]
    constructor <;> linarith
  have shorter : |(distance * (index / steps) : ℚ)| ≤ |(distance : ℚ)| := by
    have within : |(index / steps : ℚ)| ≤ 1 := by
      rw [abs_of_nonneg (by positivity)]
      exact div_le_one_of_le₀ (by exact_mod_cast inside) (Nat.cast_nonneg _)
    rw [abs_mul]
    exact mul_le_of_le_one_right (abs_nonneg _) within
  calc
    _ ≤ |(travelled distance (share steps index) : ℚ) - way distance (share steps index)| +
        |way distance (share steps index) - distance * (index / steps)| := abs_sub_le _ _ _
    _ ≤ 1 + (15 : ℕ) / 2 ^ 24 * |(distance * (index / steps) : ℚ)| := add_le_add pixel close
    _ ≤ 1 + |(distance : ℚ)| / 2 ^ 20 := by
      have nonnegative := abs_nonneg (distance : ℚ)
      push_cast
      linarith

end

/-! ## Coordinates -/

/-- The nearest number in the range of thirty-two bits. -/
def inRange (x : ℚ) : ℚ :=
  max (min x (2 ^ 31 - 1)) (-2 ^ 31)

theorem clamped_cast (value : ℤ) : (clamped value : ℚ) = inRange value := by
  unfold clamped inRange
  rw [max_comm]
  norm_num

/-- Numbers that are put into the range come no farther apart. -/
theorem abs_inRange_sub_le (x y : ℚ) : |inRange x - inRange y| ≤ |x - y| := by
  calc
    |inRange x - inRange y| ≤ |min x (2 ^ 31 - 1) - min y (2 ^ 31 - 1)| :=
      abs_max_sub_max_le_abs _ _ _
    _ ≤ max |x - y| |(2 ^ 31 - 1 : ℚ) - (2 ^ 31 - 1)| := abs_min_sub_min_le_max _ _ _ _
    _ = |x - y| := by
      rw [sub_self, abs_zero]
      exact max_eq_left (abs_nonneg _)

theorem inRange_of_mem {x : ℚ} (low : -2 ^ 31 ≤ x) (high : x ≤ 2 ^ 31 - 1) : inRange x = x := by
  rw [inRange, min_eq_left high, max_eq_left low]

/-- A number that is put into the range comes nearer to zero, if it changes. -/
theorem inRange_mem (x : ℚ) : inRange x ∈ Set.uIcc 0 x := by
  rw [Set.mem_uIcc]
  rcases le_total 0 x with nonnegative | nonpositive
  · left
    exact ⟨le_max_of_le_left (le_min nonnegative (by norm_num)),
      max_le (min_le_left _ _) (by linarith)⟩
  · right
    exact ⟨le_max_of_le_left (le_min le_rfl (by linarith)),
      max_le ((min_le_left _ _).trans nonpositive) (by norm_num)⟩

theorem toInt_range (value : Int32) :
    -2 ^ 31 ≤ (value.toInt : ℚ) ∧ (value.toInt : ℚ) ≤ 2 ^ 31 - 1 := by
  have high := value.toInt_lt
  constructor
  · exact_mod_cast value.le_toInt
  · exact_mod_cast (by omega : value.toInt ≤ 2 ^ 31 - 1)

/-- A part of the way to a coordinate, put into the range, does not lead out of it. -/
private theorem inRange_add_inRange (first last : Int32) {part : ℚ} (started : 0 ≤ part)
    (within : part ≤ 1) :
    inRange (first.toInt + inRange ((last.toInt - first.toInt) * part)) =
      first.toInt + inRange ((last.toInt - first.toInt) * part) := by
  obtain ⟨low, high⟩ := toInt_range first
  obtain ⟨low', high'⟩ := toInt_range last
  have between := inRange_mem ((last.toInt - first.toInt) * part)
  rw [Set.mem_uIcc] at between
  apply inRange_of_mem
  · rcases between with ⟨_, _⟩ | ⟨_, _⟩
    · linarith
    · nlinarith
  · rcases between with ⟨_, _⟩ | ⟨_, _⟩
    · nlinarith
    · linarith

/-- The coordinate along an axis that lies on the straight line from start to finish. -/
def onLine (path : SwipePath) (axis : Axis) (index : ℕ) : ℚ :=
  (path.start.along axis).toInt + path.distance axis * (index / path.steps)

/-- The coordinate along an axis that lies on the straight line, but no farther from the
start than thirty-two bits can tell. -/
def onClampedLine (path : SwipePath) (axis : Axis) (index : ℕ) : ℚ :=
  (path.start.along axis).toInt + inRange (path.distance axis * (index / path.steps))

/-- A pixel, and a part in `2 ^ 20` of the distance along an axis. -/
def tolerance (path : SwipePath) (axis : Axis) : ℚ :=
  1 + |(path.distance axis : ℚ)| / 2 ^ 20

section

variable {path : SwipePath} {index : ℕ} (inside : index ≤ path.steps) (axis : Axis)

include inside

theorem inRange_onClampedLine :
    inRange (path.onClampedLine axis index) = path.onClampedLine axis index := by
  have started : (0 : ℚ) ≤ index / path.steps := by positivity
  have within : (index / path.steps : ℚ) ≤ 1 :=
    div_le_one_of_le₀ (by exact_mod_cast inside) (Nat.cast_nonneg _)
  rw [onClampedLine, distance, Int.cast_sub]
  exact inRange_add_inRange (path.start.along axis) (path.finish.along axis) started within

theorem abs_reached_sub_le (few : path.steps ≤ 2 ^ 31) (passed : 1 ≤ index) :
    |(path.reached axis index : ℚ) - path.onClampedLine axis index| ≤ path.tolerance axis := by
  have steps : max 1 path.steps = path.steps := by omega
  rw [reached, steps, clamped_cast, Int.cast_add, clamped_cast,
    ← inRange_onClampedLine inside axis]
  calc
    _ ≤ |((path.start.along axis).toInt +
          inRange (travelled (path.distance axis) (share path.steps index))) -
          path.onClampedLine axis index| := abs_inRange_sub_le _ _
    _ = |inRange (travelled (path.distance axis) (share path.steps index)) -
          inRange (path.distance axis * (index / path.steps))| := by
      rw [onClampedLine, add_sub_add_left_eq_sub]
    _ ≤ |(travelled (path.distance axis) (share path.steps index) : ℚ) -
          path.distance axis * (index / path.steps)| := abs_inRange_sub_le _ _
    _ ≤ path.tolerance axis := abs_travelled_sub_le few passed inside (path.distance axis)

end

/-- A waypoint is near the straight line if the way travelled fits thirty-two bits; and it
always is near the line that goes no farther than that. -/
theorem waypoints_follow_line (start finish : Point) (duration : Int32) {index : ℕ}
    (passed : 1 ≤ index) (before : index < (plan start finish duration).steps) (axis : Axis) :
    let path := plan start finish duration
    let coordinate := ((path.waypoint index).point.along axis).toInt
    (path.distance axis * (index / path.steps : ℚ) ∈ Set.Icc (-2 ^ 31) (2 ^ 31 - 1) →
      |coordinate - path.onLine axis index| ≤ path.tolerance axis) ∧
    |coordinate - path.onClampedLine axis index| ≤ path.tolerance axis := by
  intro path coordinate
  have few : path.steps ≤ 2 ^ 31 := steps_plan_le_pow start finish duration
  have isReached : coordinate = path.reached axis index :=
    path.toInt_along_waypoint axis few (before.le.trans (le_max_right _ _))
  have near := abs_reached_sub_le before.le axis few passed
  rw [isReached]
  refine ⟨?_, near⟩
  rintro ⟨low, high⟩
  rwa [onClampedLine, inRange_of_mem low high] at near

/-- A quarter of the way across all coordinates fits thirty-two bits. -/
theorem waypoints_follow_line_of_wide_swipe :
    let path := plan ⟨Int32.minValue, 0⟩ ⟨Int32.maxValue, 0⟩ 64
    (1 ≤ 1 ∧ 1 < path.steps ∧
      path.distance .x * ((1 : ℕ) / path.steps : ℚ) ∈ Set.Icc (-2 ^ 31) (2 ^ 31 - 1)) ∧
    |((path.waypoint 1).point.along .x).toInt - path.onLine .x 1| ≤ path.tolerance .x := by
  intro path
  have before : 1 < path.steps := by decide
  have fits : path.distance .x * ((1 : ℕ) / path.steps : ℚ) ∈ Set.Icc (-2 ^ 31) (2 ^ 31 - 1) := by
    have distance : path.distance .x = 2 ^ 32 - 1 := by decide
    have steps : path.steps = 4 := by decide
    rw [distance, steps]
    norm_num
  exact ⟨⟨le_rfl, before, fits⟩,
    (waypoints_follow_line ⟨Int32.minValue, 0⟩ ⟨Int32.maxValue, 0⟩ 64 le_rfl before .x).1 fits⟩

/-- Three quarters of the way across all coordinates do not fit thirty-two bits; the
waypoint stays behind the line by half the range. -/
theorem wide_swipe_leaves_line :
    let path := plan ⟨Int32.minValue, 0⟩ ⟨Int32.maxValue, 0⟩ 64
    (1 ≤ 3 ∧ 3 < path.steps) ∧
    ¬ |((path.waypoint 3).point.along .x).toInt - path.onLine .x 3| ≤ path.tolerance .x := by
  intro path
  have before : 3 < path.steps := by decide
  have coordinate : ((path.waypoint 3).point.along .x).toInt = -1 := by decide +kernel
  have distance : path.distance .x = 2 ^ 32 - 1 := by decide
  have steps : path.steps = 4 := by decide
  have start : (path.start.along .x).toInt = -2 ^ 31 := by decide
  refine ⟨⟨by decide, before⟩, ?_⟩
  rw [coordinate, onLine, tolerance, distance, steps, start]
  norm_num [abs_of_neg, abs_of_pos]

end SwipePath

end RemoteInput
