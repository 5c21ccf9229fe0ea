import RemoteInput.Proofs.Number.Binary32
import RemoteInput.SwipePath

/-!
# Swipe paths in fixed width

The counts of a swipe path are natural numbers.  Here a path is planned and followed
with counts of thirty-two bits and times of sixty-four, by operations that have no
result for a division by zero or a value that does not fit.  None of them is ever
without result: the plan is the path, `exists_plan_eq_ok`, and its waypoints are
those of the path, `follows_path`.
-/

namespace RemoteInput

/-- Why an operation of fixed width has no result. -/
inductive ArithmeticFault where
  | divisionByZero
  | overflow
  deriving DecidableEq, Repr

namespace FixedWidth

def quotient (a b : UInt32) : Except ArithmeticFault UInt32 :=
  if b = 0 then .error .divisionByZero else .ok (a / b)

def sum (a b : UInt32) : Except ArithmeticFault UInt32 :=
  if a.toNat + b.toNat < UInt32.size then .ok (a + b) else .error .overflow

def product (a b : UInt64) : Except ArithmeticFault UInt64 :=
  if a.toNat * b.toNat < UInt64.size then .ok (a * b) else .error .overflow

/-- The quotient of two numbers of single precision. -/
def fraction (a b : Binary32) : Except ArithmeticFault Binary32 :=
  if b = .finite false 0 ∨ b = .finite true 0 then .error .divisionByZero else .ok (a / b)

def atLeastOne (count : UInt32) : UInt32 :=
  if count = 0 then 1 else count

theorem quotient_eq_ok {a b : UInt32} (nonzero : b ≠ 0) : quotient a b = .ok (a / b) :=
  if_neg nonzero

theorem sum_eq_ok {a b : UInt32} (fits : a.toNat + b.toNat < UInt32.size) :
    sum a b = .ok (a + b) :=
  if_pos fits

/-- The product of two counts of thirty-two bits fits sixty-four. -/
theorem product_eq_ok (a b : UInt32) :
    product a.toUInt64 b.toUInt64 = .ok (a.toUInt64 * b.toUInt64) ∧
      (a.toUInt64 * b.toUInt64).toNat = a.toNat * b.toNat := by
  have fits : a.toNat * b.toNat < UInt64.size := by
    calc
      a.toNat * b.toNat ≤ (2 ^ 32 - 1) * (2 ^ 32 - 1) :=
        Nat.mul_le_mul (Nat.le_pred_of_lt a.toNat_lt) (Nat.le_pred_of_lt b.toNat_lt)
      _ < UInt64.size := by decide
  constructor
  · apply if_pos
    rwa [UInt32.toNat_toUInt64, UInt32.toNat_toUInt64]
  · rw [UInt64.toNat_mul, UInt32.toNat_toUInt64, UInt32.toNat_toUInt64]
    exact Nat.mod_eq_of_lt fits

theorem fraction_eq_ok {a : Binary32} {value : Int} (nonzero : value ≠ 0) :
    fraction a (.ofInt value) = .ok (a / .ofInt value) := by
  apply if_neg
  rintro (zero | zero)
  · exact Binary32.ofInt_ne_zero nonzero false zero
  · exact Binary32.ofInt_ne_zero nonzero true zero

theorem toNat_atLeastOne (count : UInt32) : (atLeastOne count).toNat = max 1 count.toNat := by
  unfold atLeastOne
  split
  · next zero =>
    rw [zero]
    rfl
  · next nonzero =>
    have positive : count.toNat ≠ 0 := fun zero => nonzero (UInt32.toNat_inj.mp zero)
    omega

end FixedWidth

open FixedWidth

/-- A swipe path with counts of thirty-two bits. -/
structure FixedPath where
  start : Point
  finish : Point
  steps : UInt32
  spacing : UInt32

namespace FixedPath

/-- The path without bound on its counts. -/
def path (fixed : FixedPath) : SwipePath where
  start := fixed.start
  finish := fixed.finish
  steps := fixed.steps.toNat
  spacing := fixed.spacing.toNat

/-- The length of a swipe in milliseconds; a negative duration counts as none. -/
def length (duration : Int32) : UInt32 :=
  if duration < 0 then 0 else duration.toUInt32

def stepsFor (length : UInt32) : Except ArithmeticFault UInt32 :=
  if 0 < length then (quotient length 16).map atLeastOne else .ok 0

def spacingFor (length steps : UInt32) : Except ArithmeticFault UInt32 :=
  if 0 < steps then quotient length steps else .ok 0

def plan (start finish : Point) (duration : Int32) : Except ArithmeticFault FixedPath := do
  let steps ← stepsFor (length duration)
  let spacing ← spacingFor (length duration) steps
  .ok { start, finish, steps, spacing }

def moveCount (fixed : FixedPath) : UInt32 :=
  if fixed.steps = 0 then 0 else fixed.steps - 1

def waypoint (fixed : FixedPath) (index : UInt32) : Except ArithmeticFault Waypoint := do
  let progress ← fraction (.ofInt index.toNat) (.ofInt (atLeastOne fixed.steps).toNat)
  let offset ← product fixed.spacing.toUInt64 index.toUInt64
  .ok
    { index := index.toNat
      point :=
        { x := SwipePath.interpolate fixed.start.x fixed.finish.x progress
          y := SwipePath.interpolate fixed.start.y fixed.finish.y progress }
      offset := offset.toNat }

/-- The sum with one is a step toward every count above, and so it has a result. -/
private theorem sum_one_eq_ok {count above : UInt32} (below : count < above) :
    sum count 1 = .ok (count + 1) ∧ (count + 1).toNat = count.toNat + 1 := by
  have isBelow := UInt32.lt_iff_toNat_lt.mp below
  have fits : count.toNat + 1 < UInt32.size := Nat.lt_of_le_of_lt isBelow above.toNat_lt
  refine ⟨sum_eq_ok fits, ?_⟩
  rw [UInt32.toNat_add]
  exact Nat.mod_eq_of_lt fits

private theorem left_of_sum {count next above : UInt32} (isSum : sum count 1 = .ok next)
    (below : count < above) : above.toNat - next.toNat < above.toNat - count.toNat := by
  obtain ⟨same, value⟩ := sum_one_eq_ok below
  have isBelow := UInt32.lt_iff_toNat_lt.mp below
  cases same.symm.trans isSum
  omega

/-- The waypoints from an index on. -/
def waypointsFrom (fixed : FixedPath) (index : UInt32) : Except ArithmeticFault (List Waypoint) :=
  if _ : index < fixed.steps then
    match _ : sum index 1 with
    | .error fault => .error fault
    | .ok next => do
        let waypoint ← fixed.waypoint index
        let later ← fixed.waypointsFrom next
        .ok (waypoint :: later)
  else
    .ok []
  termination_by fixed.steps.toNat - index.toNat
  decreasing_by exact left_of_sum ‹_› ‹_›

def waypoints (fixed : FixedPath) : Except ArithmeticFault (List Waypoint) :=
  fixed.waypointsFrom 1

/-! ## No operation is without result -/

theorem waypoint_eq (fixed : FixedPath) (index : UInt32) :
    fixed.waypoint index = .ok (fixed.path.waypoint index.toNat) := by
  obtain ⟨isProduct, value⟩ := product_eq_ok fixed.spacing index
  have divisor : ((atLeastOne fixed.steps).toNat : Int) ≠ 0 := by
    rw [toNat_atLeastOne]
    omega
  unfold waypoint
  rw [fraction_eq_ok divisor, isProduct, toNat_atLeastOne]
  change Except.ok _ = Except.ok _
  rw [value]
  rfl

theorem waypointsFrom_eq (fixed : FixedPath) (index : UInt32) :
    fixed.waypointsFrom index =
      .ok ((List.range' index.toNat (fixed.steps.toNat - index.toNat)).map
        fixed.path.waypoint) := by
  fun_induction fixed.waypointsFrom index with
  | case1 index below fault isSum =>
    cases (sum_one_eq_ok below).1.symm.trans isSum
  | case2 index below next isSum induction =>
    -- An index below the steps has a successor, so counting up to them never wraps.
    obtain ⟨same, value⟩ := sum_one_eq_ok below
    have isBelow := UInt32.lt_iff_toNat_lt.mp below
    cases same.symm.trans isSum
    have left : fixed.steps.toNat - index.toNat =
        fixed.steps.toNat - (index + 1).toNat + 1 := by omega
    rw [induction, waypoint_eq, left, List.range'_succ, List.map_cons, value]
    rfl
  | case3 index done =>
    have left : fixed.steps.toNat - index.toNat = 0 := by
      rw [UInt32.lt_iff_toNat_lt] at done
      omega
    rw [left]
    rfl

theorem waypoints_eq (fixed : FixedPath) : fixed.waypoints = .ok fixed.path.waypoints :=
  fixed.waypointsFrom_eq 1

theorem toNat_moveCount (fixed : FixedPath) :
    fixed.moveCount.toNat = fixed.path.moveCount := by
  change fixed.moveCount.toNat = fixed.steps.toNat - 1
  unfold moveCount
  split
  · next zero =>
    rw [zero]
    rfl
  · next nonzero =>
    have positive : fixed.steps.toNat ≠ 0 := fun zero => nonzero (UInt32.toNat_inj.mp zero)
    exact UInt32.toNat_sub_of_le _ _ (UInt32.le_iff_toNat_le.mpr (Nat.one_le_iff_ne_zero.mpr positive))

theorem toNat_length (duration : Int32) : (length duration).toNat = duration.toInt.toNat := by
  unfold length
  split
  · next negative =>
    rw [Int32.lt_iff_toInt_lt, Int32.toInt_zero] at negative
    rw [Int.toNat_of_nonpos (Int.le_of_lt negative)]
    rfl
  · next nonnegative =>
    rw [Int32.lt_iff_toInt_lt, Int32.toInt_zero] at nonnegative
    change duration.toBitVec.toNat = duration.toBitVec.toInt.toNat
    change ¬ duration.toBitVec.toInt < 0 at nonnegative
    have small := duration.toBitVec.isLt
    rw [BitVec.toInt_eq_toNat_cond] at nonnegative ⊢
    split
    · rfl
    · omega

private theorem toNat_of_pos {count : UInt32} (positive : 0 < count) : count.toNat ≠ 0 :=
  Nat.pos_iff_ne_zero.mp (UInt32.lt_iff_toNat_lt.mp positive)

private theorem toNat_of_not_pos {count : UInt32} (none : ¬ 0 < count) : count.toNat = 0 := by
  rw [UInt32.lt_iff_toNat_lt] at none
  exact Nat.eq_zero_of_not_pos none

theorem exists_stepsFor_eq_ok (length : UInt32) :
    ∃ steps, stepsFor length = .ok steps ∧
      steps.toNat = if length.toNat = 0 then 0
        else max 1 (length.toNat / SwipePath.leastSpacing) := by
  unfold stepsFor
  by_cases positive : 0 < length
  · refine ⟨atLeastOne (length / 16), ?_, ?_⟩
    · rw [if_pos positive, quotient_eq_ok (by decide)]
      rfl
    · rw [if_neg (toNat_of_pos positive), toNat_atLeastOne, UInt32.toNat_div]
      rfl
  · refine ⟨0, if_neg positive, ?_⟩
    rw [if_pos (toNat_of_not_pos positive)]
    rfl

theorem exists_spacingFor_eq_ok (length steps : UInt32) :
    ∃ spacing, spacingFor length steps = .ok spacing ∧
      spacing.toNat = length.toNat / steps.toNat := by
  unfold spacingFor
  by_cases positive : 0 < steps
  · refine ⟨length / steps, ?_, UInt32.toNat_div _ _⟩
    rw [if_pos positive]
    exact quotient_eq_ok fun zero => toNat_of_pos positive (congrArg UInt32.toNat zero)
  · refine ⟨0, if_neg positive, ?_⟩
    rw [toNat_of_not_pos positive, Nat.div_zero]
    rfl

/-- A plan in fixed width has a result, and it is the path. -/
theorem exists_plan_eq_ok (start finish : Point) (duration : Int32) :
    ∃ fixed, plan start finish duration = .ok fixed ∧
      fixed.path = SwipePath.plan start finish duration := by
  obtain ⟨steps, isSteps, stepsValue⟩ := exists_stepsFor_eq_ok (length duration)
  obtain ⟨spacing, isSpacing, spacingValue⟩ := exists_spacingFor_eq_ok (length duration) steps
  refine ⟨⟨start, finish, steps, spacing⟩, ?_, ?_⟩
  · rw [plan, isSteps]
    change (spacingFor (length duration) steps >>= fun spacing => _) = _
    rw [isSpacing]
    rfl
  · rw [stepsValue, toNat_length] at spacingValue
    rw [toNat_length] at stepsValue
    unfold path SwipePath.plan
    rw [stepsValue, spacingValue]

/-- A path in fixed width that agrees with a path at every step. -/
structure Follows (fixed : FixedPath) (path : SwipePath) : Prop where
  path_eq : fixed.path = path
  moveCount_eq : fixed.moveCount.toNat = path.moveCount
  waypoint_eq : ∀ index : UInt32, fixed.waypoint index = .ok (path.waypoint index.toNat)
  waypoints_eq : fixed.waypoints = .ok path.waypoints

theorem follows_path (fixed : FixedPath) : fixed.Follows fixed.path :=
  ⟨rfl, fixed.toNat_moveCount, fixed.waypoint_eq, fixed.waypoints_eq⟩

end FixedPath

end RemoteInput
