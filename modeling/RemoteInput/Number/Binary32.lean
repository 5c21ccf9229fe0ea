/-!
# Single-precision numbers

A finite single-precision number is a sign and a whole number of *units*,
where the unit is `2 ^ -149`, the smallest positive number of the format.  The
operations compute the exact result as a quotient of natural numbers and round
it once, to the nearest representable number and to the one with an even
significand if two are equally near.
-/

namespace RemoteInput

/-- A number of the IEEE 754 format binary32. -/
inductive Binary32 where
  | finite (negative : Bool) (units : Nat)
  | infinite (negative : Bool)
  | notANumber
  deriving DecidableEq, Repr

namespace Binary32

/-- Units in one: `2 ^ 149`. -/
def one : Nat := Nat.pow 2 149

/-- The first power of two beyond every finite number, in units. -/
def overflow : Nat := Nat.pow 2 277

/-- The quotient rounded to the nearest whole number, a half to the even
neighbour. -/
def nearest (num den : Nat) : Nat :=
  let quotient := num / den
  let twice := 2 * (num % den)
  if twice < den then quotient
  else if den < twice then quotient + 1
  else quotient + quotient % 2

/-- The exponent of the last place of a magnitude: a number keeps twenty-four
significant bits, and none below the unit. -/
def lastPlace (units : Nat) : Nat :=
  units.log2 - 23

/-- The representable number of units nearest to a quotient of units. -/
def roundUnits (num den : Nat) : Nat :=
  let place := lastPlace (num / den)
  nearest num (den * Nat.pow 2 place) * Nat.pow 2 place

/-- The number nearest to a quotient of units; beyond the largest finite
number it is infinite. -/
def round (negative : Bool) (num den : Nat) : Binary32 :=
  let units := roundUnits num den
  if units < overflow then .finite negative units else .infinite negative

/-- Zero. -/
def zero : Binary32 := .finite false 0

/-- The number nearest to an integer. -/
def ofInt (value : Int) : Binary32 :=
  round (value < 0) (value.natAbs * one) 1

/-- A finite number counts, with its sign, this many units. -/
def signedUnits (negative : Bool) (units : Nat) : Int :=
  if negative then -(units : Int) else units

/-- A number that is neither infinite nor undefined. -/
def isFinite : Binary32 → Bool
  | .finite _ _ => true
  | _ => false

/-- The sum, rounded once.  A zero sum is negative only if both terms are. -/
def add : Binary32 → Binary32 → Binary32
  | .notANumber, _ | _, .notANumber => .notANumber
  | .infinite m, .infinite n => if m = n then .infinite m else .notANumber
  | .infinite m, .finite _ _ => .infinite m
  | .finite _ _, .infinite n => .infinite n
  | .finite m x, .finite n y =>
      let sum := signedUnits m x + signedUnits n y
      if sum = 0 then .finite (m && n) 0 else round (sum < 0) sum.natAbs 1

/-- The product, rounded once. -/
def mul : Binary32 → Binary32 → Binary32
  | .notANumber, _ | _, .notANumber => .notANumber
  | .infinite m, .infinite n => .infinite (m != n)
  | .infinite m, .finite n y => if y = 0 then .notANumber else .infinite (m != n)
  | .finite m x, .infinite n => if x = 0 then .notANumber else .infinite (m != n)
  | .finite m x, .finite n y => round (m != n) (x * y) one

/-- The quotient, rounded once. -/
def div : Binary32 → Binary32 → Binary32
  | .notANumber, _ | _, .notANumber => .notANumber
  | .infinite _, .infinite _ => .notANumber
  | .infinite m, .finite n _ => .infinite (m != n)
  | .finite m _, .infinite n => .finite (m != n) 0
  | .finite m x, .finite n y =>
      if y = 0 then
        if x = 0 then .notANumber else .infinite (m != n)
      else
        round (m != n) (x * one) y

instance : Add Binary32 := ⟨add⟩

instance : Mul Binary32 := ⟨mul⟩

instance : Div Binary32 := ⟨div⟩

/-- One half. -/
def half : Binary32 := .finite false (one / 2)

/-- The largest integer not above a number, clamped to thirty-two bits; zero
for an undefined number. -/
def floorInt32 : Binary32 → Int32
  | .notANumber => 0
  | .infinite true => Int32.minValue
  | .infinite false => Int32.maxValue
  | .finite negative units =>
      let floor := (signedUnits negative units).fdiv one
      if floor < Int32.minValue.toInt then Int32.minValue
      else if Int32.maxValue.toInt < floor then Int32.maxValue
      else Int32.ofInt floor

/-- The integer part of a finite number, toward zero; zero for the others. -/
def truncate : Binary32 → Int
  | .finite negative units => signedUnits negative (units / one)
  | _ => 0

/-- The magnitude bits of a number of units: the biased exponent above
twenty-three bits of significand. -/
def magnitudeBits (units : Nat) : Nat :=
  let place := lastPlace units
  place * Nat.pow 2 23 + units / Nat.pow 2 place

/-- The interchange bits. -/
def toBits : Binary32 → Nat
  | .notANumber => 0x7FC00000
  | .infinite negative => (if negative then Nat.pow 2 31 else 0) + 0x7F800000
  | .finite negative units => (if negative then Nat.pow 2 31 else 0) + magnitudeBits units

/-- The number with these interchange bits. -/
def ofBits (bits : Nat) : Binary32 :=
  let negative := bits / Nat.pow 2 31 % 2 = 1
  let exponent := bits / Nat.pow 2 23 % 256
  let fraction := bits % Nat.pow 2 23
  if exponent = 255 then
    if fraction = 0 then .infinite negative else .notANumber
  else if exponent = 0 then
    .finite negative fraction
  else
    .finite negative ((Nat.pow 2 23 + fraction) * Nat.pow 2 (exponent - 1))

end Binary32

end RemoteInput
