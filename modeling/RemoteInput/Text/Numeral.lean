import RemoteInput.Text.Blank

/-!
# Numerals

Readers for whole numbers in a text that must be a numeral from end to end.
A signed numeral is an optional sign followed by decimal digits.  An unsigned
numeral allows a plus sign only and says why it was refused: the characters
are looked at from left to right, and the first one at fault decides.
-/

namespace RemoteInput

namespace Text

/-- The value of a digit in a base of at most thirty-six; letters of either
case count on from ten. -/
def digitValue? (base : Nat) (c : Char) : Option Nat :=
  let value :=
    if '0' ≤ c && c ≤ '9' then c.toNat - 0x30
    else if 'a' ≤ c && c ≤ 'z' then c.toNat - 0x61 + 10
    else if 'A' ≤ c && c ≤ 'Z' then c.toNat - 0x41 + 10
    else base
  if value < base then some value else none

/-- The value of a run of digits, most significant first. -/
def digitsValue? (base : Nat) (digits : List Char) : Option Nat :=
  digits.foldlM (fun value c => (digitValue? base c).map (value * base + ·)) 0

/-- The value of a numeral without sign: one or more decimal digits. -/
def natural? (text : List Char) : Option Nat :=
  if text.isEmpty then none else digitsValue? 10 text

/-- The value of an optional sign and one or more decimal digits. -/
def integer? : List Char → Option Int
  | '-' :: digits => (natural? digits).map fun value => -(value : Int)
  | '+' :: digits => (natural? digits).map fun value => (value : Int)
  | digits => (natural? digits).map fun value => (value : Int)

/-- The value of the digits of an exponent.  Once it has reached `2 ^ 16`, later
digits count for nothing: so large an exponent decides alone between zero and
infinity, unless a coefficient has tens of thousands of digits. -/
def exponentDigits? (digits : List Char) : Option Nat :=
  digits.foldlM
    (fun value c =>
      (digitValue? 10 c).map fun digit => if value < Nat.pow 2 16 then value * 10 + digit else value)
    0

/-- The value of an exponent: an optional sign and one or more digits. -/
def exponent? : List Char → Option Int
  | [] | ['-'] | ['+'] => none
  | '-' :: digits => (exponentDigits? digits).map fun value => -(value : Int)
  | '+' :: digits => (exponentDigits? digits).map fun value => (value : Int)
  | digits => (exponentDigits? digits).map fun value => (value : Int)

/-- A signed numeral whose value fits thirty-two bits. -/
def int32? (text : List Char) : Option Int32 := do
  let value ← integer? text
  if -0x80000000 ≤ value ∧ value < 0x80000000 then some (Int32.ofInt value) else none

/-- A signed numeral whose value fits sixty-four bits. -/
def int64? (text : List Char) : Option Int := do
  let value ← integer? text
  if -0x8000000000000000 ≤ value ∧ value < 0x8000000000000000 then some value else none

/-- Why an unsigned numeral was refused. -/
inductive NumeralError where
  | empty
  | invalidDigit
  | tooLarge
  deriving DecidableEq, Repr

namespace NumeralError

/-- The wording of a refused numeral. -/
def message : NumeralError → String
  | .empty => "cannot parse integer from empty string"
  | .invalidDigit => "invalid digit found in string"
  | .tooLarge => "number too large to fit in target type"

end NumeralError

/-- Reads the digits of an unsigned numeral below `bound`, starting at a value
already read. -/
def unsignedDigits (base bound : Nat) (digits : List Char) : Except NumeralError Nat :=
  digits.foldlM
    (fun value c =>
      match digitValue? base c with
      | none => .error .invalidDigit
      | some digit =>
          if value * base + digit < bound then
            .ok (value * base + digit)
          else
            .error .tooLarge)
    0

/-- Reads an unsigned numeral whose value must be below `bound`.  A plus sign
may stand before the digits. -/
def unsigned (base bound : Nat) : List Char → Except NumeralError Nat
  | [] => .error .empty
  | ['+'] => .error .invalidDigit
  | '+' :: digits => unsignedDigits base bound digits
  | digits => unsignedDigits base bound digits

/-- The decimal text of an integer. -/
def decimal (value : Int) : String :=
  match value with
  | .ofNat n => String.ofList (Nat.toDigits 10 n)
  | .negSucc n => String.ofList ('-' :: Nat.toDigits 10 (n + 1))

end Text

end RemoteInput
