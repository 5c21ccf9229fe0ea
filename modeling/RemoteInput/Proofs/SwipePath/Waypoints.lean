import Mathlib.Order.Interval.Set.UnorderedInterval
import RemoteInput.Proofs.SwipePath.Interpolation
import RemoteInput.Proofs.SwipePath.Steps

/-!
# Where the waypoints are

Along each axis a swipe goes one way: every waypoint is as far from the start as the one
before it, or farther.  If the numbers of steps are exact in single precision, no waypoint
is beyond the finish.
-/

namespace RemoteInput

open Binary32

/-- An axis of the display. -/
inductive Axis where
  | x
  | y
  deriving DecidableEq

/-- The coordinate of a point along an axis. -/
def Point.along (point : Point) : Axis → Int32
  | .x => point.x
  | .y => point.y

namespace SwipePath

/-- The coordinates along an axis of the start and of the waypoints after it. -/
def track (path : SwipePath) (axis : Axis) : List Int32 :=
  path.start.along axis :: path.waypoints.map fun waypoint => waypoint.point.along axis

/-! ## The coordinate of a waypoint -/

/-- The distance from start to finish along an axis. -/
def distance (path : SwipePath) (axis : Axis) : ℤ :=
  (path.finish.along axis).toInt - (path.start.along axis).toInt

/-- The coordinate along an axis after a number of steps. -/
def reached (path : SwipePath) (axis : Axis) (index : ℕ) : ℤ :=
  clamped ((path.start.along axis).toInt +
    clamped (travelled (path.distance axis) (share (max 1 path.steps) index)))

theorem clamped_mono : Monotone clamped := by
  intro value other ordered
  unfold clamped
  omega

theorem clamped_toInt (value : Int32) : clamped value.toInt = value.toInt := by
  have low := value.le_toInt
  have high := value.toInt_lt
  unfold clamped
  omega

section

variable (path : SwipePath) (axis : Axis)

theorem toInt_along_waypoint (few : path.steps ≤ 2 ^ 31) {index : ℕ}
    (inside : index ≤ max 1 path.steps) :
    ((path.waypoint index).point.along axis).toInt = path.reached axis index := by
  have positive : 0 < max 1 path.steps := by omega
  have denotes := path.denotes_progress inside (by omega)
  have started := share_nonneg positive index
  have within := share_le_one positive inside
  cases axis with
  | x => exact toInt_interpolate _ _ denotes started within
  | y => exact toInt_interpolate _ _ denotes started within

theorem reached_zero : path.reached axis 0 = (path.start.along axis).toInt := by
  rw [reached, share_zero, travelled_zero]
  exact (congrArg clamped (Int.add_zero _)).trans (clamped_toInt _)

variable {path axis}

theorem reached_mono (forward : 0 ≤ path.distance axis) : Monotone (path.reached axis) := by
  intro index later ordered
  have shares : share (max 1 path.steps) index ≤ share (max 1 path.steps) later :=
    share_mono (by omega) ordered
  exact clamped_mono (Int.add_le_add_left (clamped_mono (travelled_mono forward shares)) _)

theorem reached_antitone (backward : path.distance axis ≤ 0) : Antitone (path.reached axis) := by
  intro index later ordered
  have shares : share (max 1 path.steps) index ≤ share (max 1 path.steps) later :=
    share_mono (by omega) ordered
  exact clamped_mono (Int.add_le_add_left (clamped_mono (travelled_antitone backward shares)) _)

/-- The start is where no step is made yet. -/
theorem toInt_track (few : path.steps ≤ 2 ^ 31) :
    (path.track axis).map Int32.toInt =
      (List.range (path.moveCount + 1)).map (path.reached axis) := by
  rw [track, waypoints, List.range_eq_range', List.range'_succ, List.map_cons, List.map_cons,
    reached_zero, List.map_map, List.map_map]
  congr 1
  apply List.map_congr_left
  intro index inside
  rw [List.mem_range'_1, moveCount] at inside
  exact path.toInt_along_waypoint axis few (by omega)

theorem pairwise_track (few : path.steps ≤ 2 ^ 31) (relation : ℤ → ℤ → Prop)
    (ordered : ∀ {index later}, index < later →
      relation (path.reached axis index) (path.reached axis later)) :
    (path.track axis).Pairwise fun first last => relation first.toInt last.toInt := by
  rw [← List.pairwise_map, toInt_track few, List.pairwise_map]
  exact List.pairwise_lt_range.imp ordered

end

theorem steps_plan_le (start finish : Point) (duration : Int32) :
    (plan start finish duration).steps ≤ duration.toInt.toNat := by
  unfold plan leastSpacing
  dsimp only
  split
  · omega
  · omega

/-- The numbers of steps of a swipe of less than three days are exact in single
precision. -/
theorem steps_plan_lt (start finish : Point) {duration : Int32}
    (short : duration.toInt < 2 ^ 28) : (plan start finish duration).steps < 2 ^ 24 := by
  unfold plan leastSpacing
  dsimp only
  split
  · omega
  · omega

theorem steps_plan_le_pow (start finish : Point) (duration : Int32) :
    (plan start finish duration).steps ≤ 2 ^ 31 := by
  have within := steps_plan_le start finish duration
  have short := duration.toInt_lt
  omega

/-- Along each axis a swipe goes one way from its start, from waypoint to waypoint; where
start and finish are equal, it stays. -/
theorem swipe_never_doubles_back (start finish : Point) (duration : Int32) (axis : Axis) :
    (start.along axis ≤ finish.along axis →
      ((plan start finish duration).track axis).Pairwise (· ≤ ·)) ∧
    (finish.along axis ≤ start.along axis →
      ((plan start finish duration).track axis).Pairwise (· ≥ ·)) ∧
    (start.along axis = finish.along axis →
      ∀ coordinate ∈ (plan start finish duration).track axis,
        coordinate = start.along axis) := by
  have few := steps_plan_le_pow start finish duration
  have forward : start.along axis ≤ finish.along axis →
      ((plan start finish duration).track axis).Pairwise (· ≤ ·) := by
    intro ordered
    have onward : 0 ≤ (plan start finish duration).distance axis :=
      Int.sub_nonneg_of_le (Int32.le_iff_toInt_le.mp ordered)
    exact (pairwise_track few (· ≤ ·) fun before => reached_mono onward before.le).imp
      Int32.le_iff_toInt_le.mpr
  have backward : finish.along axis ≤ start.along axis →
      ((plan start finish duration).track axis).Pairwise (· ≥ ·) := by
    intro ordered
    have onward : (plan start finish duration).distance axis ≤ 0 :=
      Int.sub_nonpos_of_le (Int32.le_iff_toInt_le.mp ordered)
    exact (pairwise_track few (· ≥ ·) fun before => reached_antitone onward before.le).imp
      Int32.le_iff_toInt_le.mpr
  refine ⟨forward, backward, ?_⟩
  intro same coordinate member
  rcases List.mem_cons.mp member with isStart | later
  · exact isStart
  · have noLess := List.rel_of_pairwise_cons (forward (Int32.le_of_eq same)) later
    have noMore := List.rel_of_pairwise_cons (backward (Int32.le_of_eq same.symm)) later
    exact Int32.le_antisymm noMore noLess

/-! ## The last waypoint -/

/-- Before the last step, the share of the way is the number before one at most. -/
theorem share_le_of_lt {steps index : ℕ} (exactly : steps < 2 ^ 24) (before : index < steps) :
    share steps index ≤ 1 - 1 / 2 ^ 24 := by
  have exact_count : ∀ count : ℕ, count < 2 ^ 24 → rounded count = count := by
    intro count small
    apply rounded_of_representable
    refine ⟨count, 149, by rw [Nat.abs_cast]; omega, ?_⟩
    rw [one]
    norm_num
  have representable : Representable (1 - 1 / 2 ^ 24) := by
    refine ⟨2 ^ 24 - 1, 125, by decide, ?_⟩
    rw [one]
    norm_num
  have positive : (0 : ℚ) < steps := by exact_mod_cast (by omega : 0 < steps)
  have low : (index : ℚ) + 1 ≤ steps := by exact_mod_cast before
  have high : (steps : ℚ) ≤ 2 ^ 24 := by exact_mod_cast exactly.le
  rw [share, exact_count steps exactly, exact_count index (before.trans exactly),
    ← rounded_of_representable representable]
  apply rounded_mono
  rw [div_le_iff₀ positive]
  linarith

/-- A number that is multiplied by less than one by a part in `2 ^ 24` or more becomes
less, although the product is rounded. -/
theorem rounded_mul_lt {x share : ℚ} (some : 1 ≤ x) (short : share ≤ 1 - 1 / 2 ^ 24) :
    rounded (x * share) < x := by
  have positive : 0 < x := zero_lt_one.trans_le some
  have within : x * share ≤ x * (1 - 1 / 2 ^ 24) := mul_le_mul_of_nonneg_left short positive.le
  have isPositive : 0 < x * (1 - 1 / 2 ^ 24) := by linarith
  have normal : (2 ^ 23 : ℚ) / one ≤ |x * (1 - 1 / 2 ^ 24)| := by
    rw [abs_of_pos isPositive, one]
    norm_num
    linarith
  have error := (abs_le.mp (abs_rounded_sub_le_mul normal)).2
  rw [abs_of_pos isPositive] at error
  calc
    rounded (x * share) ≤ rounded (x * (1 - 1 / 2 ^ 24)) := rounded_mono within
    _ ≤ x * (1 - 1 / 2 ^ 24) * (1 + 1 / 2 ^ 24) := by linarith
    _ < x := by linarith

section

variable {distance : ℤ} {share : ℚ} (short : share ≤ 1 - 1 / 2 ^ 24)

include short

/-- The way is shorter than the rounded distance.  So it is shorter than the distance, or
the distance would have been rounded to the way. -/
theorem way_lt (forward : 0 < distance) : way distance share < distance := by
  have some : 1 ≤ rounded distance := one_le_rounded (by exact_mod_cast forward)
  by_contra beyond
  have crossed := rounded_mono (not_lt.mp beyond)
  rw [way, rounded_rounded] at crossed
  exact (rounded_mul_lt some short).not_ge crossed

theorem lt_way (backward : distance < 0) : distance < way distance share := by
  have opposite : way (-distance) share = -way distance share := by
    rw [way, way, Int.cast_neg, rounded_neg, neg_mul, rounded_neg]
  have less := way_lt short (Int.neg_pos_of_neg backward)
  rw [opposite, Int.cast_neg] at less
  exact neg_lt_neg_iff.mp less

/-- The way travelled does not exceed the distance, in either direction. -/
theorem travelled_mem (started : 0 ≤ share) : travelled distance share ∈ Set.uIcc 0 distance := by
  rw [Set.mem_uIcc]
  rcases lt_trichotomy distance 0 with backward | still | forward
  · right
    have less := lt_way short backward
    have above := lt_travelled distance share
    refine ⟨Int.sub_one_lt_iff.mp ?_, travelled_nonpos backward.le started⟩
    have within : (distance - 1 : ℚ) < travelled distance share := by linarith
    exact_mod_cast within
  · right
    rw [still]
    exact ⟨travelled_nonneg le_rfl started, travelled_nonpos le_rfl started⟩
  · left
    have less := way_lt short forward
    have below := travelled_le distance share
    refine ⟨travelled_nonneg forward.le started, Int.lt_add_one_iff.mp ?_⟩
    have within : (travelled distance share : ℚ) < distance + 1 := by linarith
    exact_mod_cast within

end

/-- Clamping does not take a coordinate out of the span of two others. -/
private theorem clamped_add_mem {first last : Int32} {way : ℤ}
    (within : way ∈ Set.uIcc 0 (last.toInt - first.toInt)) :
    clamped (first.toInt + clamped way) ∈ Set.uIcc first.toInt last.toInt := by
  have low := first.le_toInt
  have high := first.toInt_lt
  have low' := last.le_toInt
  have high' := last.toInt_lt
  rw [Set.mem_uIcc] at *
  unfold clamped
  omega

theorem reached_mem {path : SwipePath} (exactly : path.steps < 2 ^ 24) {index : ℕ}
    (before : index < path.steps) (axis : Axis) :
    path.reached axis index ∈
      Set.uIcc (path.start.along axis).toInt (path.finish.along axis).toInt := by
  have steps : max 1 path.steps = path.steps := by omega
  rw [reached, steps]
  apply clamped_add_mem
  exact travelled_mem (share_le_of_lt exactly before) (share_nonneg (by omega) index)

/-- Every waypoint is between start and finish, along each axis, if the numbers of steps
are exact in single precision. -/
theorem waypoints_stay_between (start finish : Point) {duration : Int32}
    (short : duration.toInt < 2 ^ 28) {waypoint : Waypoint}
    (member : waypoint ∈ (plan start finish duration).waypoints) (axis : Axis) :
    (waypoint.point.along axis).toInt ∈
      Set.uIcc (start.along axis).toInt (finish.along axis).toInt := by
  obtain ⟨index, before, rfl⟩ := exists_of_mem_waypoints _ member
  rw [toInt_along_waypoint _ axis (steps_plan_le_pow start finish duration) (by omega)]
  exact reached_mem (steps_plan_lt start finish short) before axis

/-- A distance of `2 ^ 24 + 3` is none of single precision. -/
theorem waypoints_stay_between_of_rounded_distance :
    ((64 : Int32).toInt < 2 ^ 28 ∧
      (plan ⟨-1, 0⟩ ⟨16777218, 0⟩ 64).waypoint 3 ∈ (plan ⟨-1, 0⟩ ⟨16777218, 0⟩ 64).waypoints) ∧
    (((plan ⟨-1, 0⟩ ⟨16777218, 0⟩ 64).waypoint 3).point.along .x).toInt ∈
      Set.uIcc (Point.along ⟨-1, 0⟩ .x).toInt (Point.along ⟨16777218, 0⟩ .x).toInt := by
  have short : (64 : Int32).toInt < 2 ^ 28 := by decide
  have member : (plan ⟨-1, 0⟩ ⟨16777218, 0⟩ 64).waypoint 3 ∈
      (plan ⟨-1, 0⟩ ⟨16777218, 0⟩ 64).waypoints := List.mem_map_of_mem (by decide)
  exact ⟨⟨short, member⟩, waypoints_stay_between ⟨-1, 0⟩ ⟨16777218, 0⟩ short member .x⟩

end SwipePath

end RemoteInput
