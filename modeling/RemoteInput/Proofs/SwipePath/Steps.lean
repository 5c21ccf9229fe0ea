import Mathlib.Data.List.Chain
import RemoteInput.Proofs.SwipePath.FixedWidth

/-!
# The steps of a swipe

The steps of a swipe fill its duration but for less than one millisecond a step.  Its
waypoints are one step apart, sixteen milliseconds at least, and the last one leaves a
step to the end.
-/

namespace RemoteInput

namespace SwipePath

/-! ## Waypoints -/

section

variable (path : SwipePath)

theorem index_waypoints : path.waypoints.map Waypoint.index = List.range' 1 path.moveCount := by
  rw [waypoints, List.map_map]
  exact List.map_id _

theorem exists_of_mem_waypoints {waypoint : Waypoint} (member : waypoint ∈ path.waypoints) :
    ∃ index, index < path.steps ∧ waypoint = path.waypoint index := by
  obtain ⟨index, inside, rfl⟩ := List.mem_map.mp member
  rw [List.mem_range'_1, moveCount] at inside
  exact ⟨index, by omega, rfl⟩

/-- A waypoint comes one step after the one before it. -/
theorem isChain_waypoints :
    path.waypoints.IsChain fun earlier later => later.offset = earlier.offset + path.spacing := by
  rw [waypoints, List.isChain_map]
  apply (List.isChain_range' 1 path.moveCount 1).imp
  rintro index _ rfl
  exact Nat.mul_succ path.spacing index

end

/-! ## Planned steps -/

section

variable {start finish : Point} {duration : Int32}

theorem steps_plan_eq_zero_iff :
    (plan start finish duration).steps = 0 ↔ duration.toInt ≤ 0 := by
  unfold plan
  dsimp only
  split
  · next none => exact ⟨fun _ => Int.toNat_eq_zero.mp none, fun _ => rfl⟩
  · next some => exact ⟨by omega, fun none => (some (Int.toNat_eq_zero.mpr none)).elim⟩

theorem spacing_plan :
    (plan start finish duration).spacing =
      duration.toInt.toNat / (plan start finish duration).steps :=
  rfl

/-- The steps stay within the duration. -/
theorem steps_mul_spacing_le :
    (plan start finish duration).steps * (plan start finish duration).spacing ≤
      duration.toInt.toNat := by
  rw [spacing_plan]
  exact Nat.mul_div_le _ _

theorem lt_steps_mul_succ_spacing (positive : 0 < (plan start finish duration).steps) :
    duration.toInt.toNat <
      (plan start finish duration).steps * ((plan start finish duration).spacing + 1) := by
  rw [spacing_plan]
  exact Nat.lt_mul_div_succ _ positive

/-- Several steps are no more than fit with the least spacing, so they have it. -/
theorem leastSpacing_le_spacing (several : 1 < (plan start finish duration).steps) :
    leastSpacing ≤ (plan start finish duration).spacing := by
  -- Of two steps or more none was added to reach the least number, which is one.
  have counted : (plan start finish duration).steps = duration.toInt.toNat / leastSpacing := by
    unfold plan at several ⊢
    dsimp only at several ⊢
    split at several
    · omega
    · next some =>
      rw [if_neg some]
      omega
  have fits : (plan start finish duration).steps * leastSpacing ≤ duration.toInt.toNat := by
    rw [counted]
    exact Nat.div_mul_le_self _ _
  rw [spacing_plan, Nat.le_div_iff_mul_le (by omega), Nat.mul_comm]
  exact fits

/-- Steps of a planned path take some time, if there are any moves. -/
theorem spacing_plan_pos (moves : 0 < (plan start finish duration).moveCount) :
    0 < (plan start finish duration).spacing := by
  have several : 1 < (plan start finish duration).steps := Nat.sub_pos_iff_lt.mp moves
  exact Nat.lt_of_lt_of_le (by decide) (leastSpacing_le_spacing several)

end

/-- A path whose waypoints are spread evenly over a duration in milliseconds. -/
structure Paced (path : SwipePath) (duration : Int) : Prop where
  still : path.steps = 0 ↔ duration ≤ 0
  within : 0 < duration → 1 ≤ path.steps ∧ (path.steps * path.spacing : Int) ≤ duration
  nearly : 0 < duration → duration < (path.steps * (path.spacing + 1) : Int)
  count : path.waypoints.length = max path.steps 1 - 1
  indices : path.waypoints.map Waypoint.index = List.range' 1 (max path.steps 1 - 1)
  offsets : ∀ waypoint ∈ path.waypoints, waypoint.offset = waypoint.index * path.spacing
  evenly : path.waypoints.IsChain fun earlier later => later.offset = earlier.offset + path.spacing
  spaced : path.waypoints ≠ [] → 16 ≤ path.spacing
  early : ∀ waypoint ∈ path.waypoints, (waypoint.offset : Int) ≤ duration - path.spacing

theorem paced_plan (start finish : Point) (duration : Int32) :
    (plan start finish duration).Paced duration.toInt := by
  have still : (plan start finish duration).steps = 0 ↔ duration.toInt ≤ 0 :=
    steps_plan_eq_zero_iff
  have within := @steps_mul_spacing_le start finish duration
  have nearly := @lt_steps_mul_succ_spacing start finish duration
  have least := @leastSpacing_le_spacing start finish duration
  generalize plan start finish duration = path at *
  have count : path.moveCount = max path.steps 1 - 1 := by
    rw [moveCount]
    omega
  have positive : 0 < duration.toInt → 0 < path.steps := by omega
  refine ⟨still, ?_, ?_, ?_, ?_, ?_, path.isChain_waypoints, ?_, ?_⟩
  · intro long
    have exactly := Int.toNat_of_nonneg (Int.le_of_lt long)
    refine ⟨positive long, ?_⟩
    rw [← exactly]
    exact_mod_cast within
  · intro long
    have exactly := Int.toNat_of_nonneg (Int.le_of_lt long)
    rw [← exactly]
    exact_mod_cast nearly (positive long)
  · rw [waypoints, List.length_map, List.length_range', count]
  · rw [index_waypoints, count]
  · intro waypoint member
    obtain ⟨index, _, rfl⟩ := path.exists_of_mem_waypoints member
    exact Nat.mul_comm _ _
  · intro some
    apply least
    by_contra few
    exact some (by rw [waypoints, moveCount, Nat.sub_eq_zero_of_le (by omega)]; rfl)
  · intro waypoint member
    obtain ⟨index, before, rfl⟩ := path.exists_of_mem_waypoints member
    have exactly := Int.toNat_of_nonneg (a := duration.toInt) (by omega)
    have step : path.spacing * index + path.spacing ≤ path.steps * path.spacing := by
      rw [← Nat.mul_succ, Nat.mul_comm path.steps]
      exact Nat.mul_le_mul_left _ before
    have inTime : path.spacing * index + path.spacing ≤ duration.toInt.toNat := step.trans within
    change ((path.spacing * index : Nat) : Int) ≤ _
    omega

/-- A swipe is paced over its duration: its steps are of one length and fill the duration
but for less than a millisecond each, and its waypoints stand after all steps but the
last.  None of the operations on counts of thirty-two bits and times of sixty-four
divides by zero or exceeds its width. -/
theorem swipe_is_paced (start finish : Point) (duration : Int32) :
    (plan start finish duration).Paced duration.toInt ∧
      ∃ fixed, FixedPath.plan start finish duration = .ok fixed ∧
        fixed.Follows (plan start finish duration) := by
  refine ⟨paced_plan start finish duration, ?_⟩
  obtain ⟨fixed, planned, same⟩ := FixedPath.exists_plan_eq_ok start finish duration
  refine ⟨fixed, planned, ?_⟩
  rw [← same]
  exact fixed.follows_path

/-- A hundred milliseconds are six steps, with four milliseconds to spare. -/
example :
    ((plan ⟨0, 0⟩ ⟨60, 0⟩ 100).steps, (plan ⟨0, 0⟩ ⟨60, 0⟩ 100).spacing) = (6, 16) := by
  decide

end SwipePath

end RemoteInput
