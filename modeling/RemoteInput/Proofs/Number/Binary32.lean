import RemoteInput.Number.Binary32

/-!
# Rounding to single precision

A number that is no less than a unit is not rounded to zero.
-/

namespace RemoteInput

namespace Binary32

theorem div_le_nearest (num den : Nat) : num / den ≤ nearest num den := by
  unfold nearest
  dsimp only
  split
  · exact Nat.le_refl _
  split
  · exact Nat.le_succ _
  · exact Nat.le_add_right _ _

/-- The last place of a magnitude is within it. -/
theorem pow_lastPlace_le {units : Nat} (positive : units ≠ 0) :
    Nat.pow 2 (lastPlace units) ≤ units := by
  calc
    Nat.pow 2 (lastPlace units) ≤ Nat.pow 2 units.log2 :=
      Nat.pow_le_pow_right (by decide) (Nat.sub_le _ _)
    _ ≤ units := Nat.log2_self_le positive

theorem roundUnits_pos {num den : Nat} (positive : 0 < den) (least : den ≤ num) :
    0 < roundUnits num den := by
  have whole : num / den ≠ 0 := Nat.ne_of_gt (Nat.div_pos least positive)
  have place : 0 < Nat.pow 2 (lastPlace (num / den)) := Nat.two_pow_pos _
  have below : 0 < num / (den * Nat.pow 2 (lastPlace (num / den))) := by
    rw [← Nat.div_div_eq_div_mul]
    exact Nat.div_pos (pow_lastPlace_le whole) place
  exact Nat.mul_pos (Nat.lt_of_lt_of_le below (div_le_nearest _ _)) place

/-- An integer is zero in single precision only if it is zero. -/
theorem ofInt_ne_zero {value : Int} (nonzero : value ≠ 0) (negative : Bool) :
    ofInt value ≠ .finite negative 0 := by
  have magnitude : 1 ≤ value.natAbs * one :=
    Nat.mul_pos (Int.natAbs_pos.mpr nonzero) (Nat.two_pow_pos _)
  have positive : 0 < roundUnits (value.natAbs * one) 1 := roundUnits_pos Nat.one_pos magnitude
  unfold ofInt round
  dsimp only
  split
  · intro same
    injection same with _ units
    omega
  · exact nofun

end Binary32

end RemoteInput
