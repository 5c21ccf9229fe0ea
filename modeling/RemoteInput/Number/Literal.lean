import RemoteInput.Number.Binary32
import RemoteInput.Text.Numeral

/-!
# Texts of single-precision numbers

A literal is an optional sign followed by one of the words `inf`, `infinity`
and `nan` in any letter case, or by digits with at most one point among them
and an optional exponent.  Its number is the exact decimal value, rounded once.
-/

namespace RemoteInput

namespace Binary32

/-- A decimal value: the coefficient times ten to the exponent.  The width is
the number of digits of the coefficient, leading zeros left out. -/
structure Decimal where
  coefficient : Nat
  width : Nat
  exponent : Int
  deriving DecidableEq, Repr

/-- The decimal value of digits before and after the point, scaled. -/
def Decimal.ofDigits (whole fraction : List Char) (exponent : Int) : Decimal :=
  let digits := (whole ++ fraction).dropWhile (· = '0')
  { coefficient := (Text.digitsValue? 10 digits).getD 0
    width := digits.length
    exponent := exponent - fraction.length }

/-- The number nearest to a decimal value.  Values from ten to the fortieth are
infinite and values below ten to the minus forty-sixth are zero, so that no
power of ten larger than needed is computed. -/
def ofDecimal (negative : Bool) (value : Decimal) : Binary32 :=
  let order := value.width + value.exponent
  if value.coefficient = 0 then .finite negative 0
  else if 40 < order then .infinite negative
  else if order < -46 then .finite negative 0
  else if 0 ≤ value.exponent then
    round negative (value.coefficient * Nat.pow 10 value.exponent.toNat * one) 1
  else
    round negative (value.coefficient * one) (Nat.pow 10 (-value.exponent).toNat)

/-- The exponent of a literal, from the letter on; nothing means zero. -/
def exponent? : List Char → Option Int
  | [] => some 0
  | 'e' :: rest | 'E' :: rest => Text.exponent? rest
  | _ => none

/-- The decimal value of a literal without sign. -/
def decimal? (text : List Char) : Option Decimal := do
  let whole := text.takeWhile Char.isDigit
  let (fraction, rest) :=
    match text.dropWhile Char.isDigit with
    | '.' :: rest => (rest.takeWhile Char.isDigit, rest.dropWhile Char.isDigit)
    | rest => ([], rest)
  if whole.isEmpty && fraction.isEmpty then
    none
  else
    let exponent ← exponent? rest
    some (.ofDigits whole fraction exponent)

/-- The number of a literal without sign, made negative if asked. -/
def unsigned? (negative : Bool) (text : List Char) : Option Binary32 :=
  match decimal? text with
  | some value => some (ofDecimal negative value)
  | none =>
      let word := Text.lower text
      if word = "nan".toList then some .notANumber
      else if word = "inf".toList ∨ word = "infinity".toList then some (.infinite negative)
      else none

/-- The number of a literal. -/
def ofLiteral? : List Char → Option Binary32
  | '-' :: rest => unsigned? true rest
  | '+' :: rest => unsigned? false rest
  | text => unsigned? false text

end Binary32

end RemoteInput
