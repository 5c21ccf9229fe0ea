import Mathlib.Algebra.Group.Nat.Defs
import Mathlib.Data.List.Basic
import Mathlib.Data.List.Induction
import Mathlib.Data.Nat.Digits.Defs
import RemoteInput.Text.Numeral
import RemoteInput.Text.Quoted

/-!
# Hexadecimal digits

Hexadecimal digits of either case are read as the number that they write, and nothing else is
read.  The digits of a number are read as that number again: with zeros before them, and in
letters of either case.
-/

namespace RemoteInput

namespace Text

/-- The hexadecimal digits, with small letters. -/
def smallHexadecimals : List Char :=
  ['0', '1', '2', '3', '4', '5', '6', '7', '8', '9', 'a', 'b', 'c', 'd', 'e', 'f']

def hexadecimals : List Char :=
  smallHexadecimals ++ upper smallHexadecimals

/-- Hexadecimal digits of either case, one at least. -/
structure Hexadecimals (text : List Char) : Prop where
  nonempty : text ≠ []
  digits : ∀ c ∈ text, c ∈ hexadecimals

/-- The number that hexadecimal digits write, the most significant first. -/
def hexadecimalNumber (digits : List Char) : Nat :=
  Nat.ofDigits 16 (digits.reverse.map fun c => smallHexadecimals.idxOf c.toLower)

/-! ## Reading digits -/

section

variable {base : Nat}

theorem digitsValue?_concat (digits : List Char) (c : Char) :
    digitsValue? base (digits ++ [c]) =
      (digitsValue? base digits).bind fun value =>
        (digitValue? base c).map (value * base + ·) := by
  unfold digitsValue?
  rw [List.foldlM_append]
  simp only [List.foldlM_cons, List.foldlM_nil, bind_pure]
  rfl

theorem unsignedDigits_concat (bound : Nat) (digits : List Char) (c : Char) :
    unsignedDigits base bound (digits ++ [c]) =
      (unsignedDigits base bound digits).bind fun value =>
        match digitValue? base c with
        | none => .error .invalidDigit
        | some digit =>
            if value * base + digit < bound then .ok (value * base + digit)
            else .error .tooLarge := by
  unfold unsignedDigits
  rw [List.foldlM_append]
  simp only [List.foldlM_cons, List.foldlM_nil, bind_pure]
  rfl

/-- Digits are read as a number below a bound if that is their value.  No digit makes the
value less, so it is enough to look at the whole. -/
theorem unsignedDigits_eq_ok_iff {bound value : Nat} (positive : 0 < base) (nonempty : 0 < bound)
    {digits : List Char} :
    unsignedDigits base bound digits = .ok value ↔
      digitsValue? base digits = some value ∧ value < bound := by
  induction digits using List.reverseRecOn generalizing value with
  | nil =>
      have read : unsignedDigits base bound [] = .ok 0 := rfl
      have isZero : digitsValue? base [] = some 0 := rfl
      rw [read, isZero, Except.ok.injEq, Option.some.injEq]
      constructor
      · rintro rfl
        exact ⟨rfl, nonempty⟩
      · exact And.left
  | append_singleton digits c induction =>
      rw [unsignedDigits_concat, digitsValue?_concat]
      cases earlier : unsignedDigits base bound digits with
      | error fault =>
          constructor
          · intro read
            cases read
          · rintro ⟨read, below⟩
            obtain ⟨first, isFirst, later⟩ := Option.bind_eq_some_iff.mp read
            obtain ⟨digit, _, rfl⟩ := Option.map_eq_some_iff.mp later
            have less : first ≤ first * base := Nat.le_mul_of_pos_right first positive
            have isRead := induction.mpr ⟨isFirst, by omega⟩
            rw [earlier] at isRead
            cases isRead
      | ok first =>
          obtain ⟨isFirst, below⟩ := induction.mp earlier
          rw [isFirst]
          cases digitValue? base c with
          | none => simp [Except.bind]
          | some digit =>
              simp only [Except.bind, Option.bind_some, Option.map_some, Option.some.injEq]
              split
              · next fits =>
                rw [Except.ok.injEq]
                constructor
                · rintro rfl
                  exact ⟨rfl, fits⟩
                · exact And.left
              · next large =>
                simp
                omega

end

private theorem digitValue?_of_hexadecimal :
    ∀ c ∈ hexadecimals, digitValue? 16 c = some (smallHexadecimals.idxOf c.toLower) :=
  List.forall_iff_forall_mem.mp (by decide)

private theorem digitValue?_of_not_hexadecimal {c : Char} (other : c ∉ hexadecimals) :
    digitValue? 16 c = none := by
  by_cases ascii : c.toNat < 0x80
  · have each : ∀ code < 0x80, Char.ofNat code ∉ hexadecimals →
        digitValue? 16 (Char.ofNat code) = none := by
      decide
    have none := each c.toNat ascii
    rw [Char.ofNat_toNat] at none
    exact none other
  · have above : ∀ letter : Char, letter.toNat < 0x80 → ¬ c ≤ letter := by
      intro letter isAscii below
      have least : c.toNat ≤ letter.toNat := below
      omega
    have nine := above '9' (by decide)
    have small := above 'z' (by decide)
    have capital := above 'Z' (by decide)
    simp [digitValue?, nine, small, capital]

theorem digitsValue?_eq_some_iff {digits : List Char} {value : Nat} :
    digitsValue? 16 digits = some value ↔
      (∀ c ∈ digits, c ∈ hexadecimals) ∧ value = hexadecimalNumber digits := by
  induction digits using List.reverseRecOn generalizing value with
  | nil => simp [digitsValue?, hexadecimalNumber, eq_comm]
  | append_singleton digits c induction =>
      have number : hexadecimalNumber (digits ++ [c]) =
          hexadecimalNumber digits * 16 + smallHexadecimals.idxOf c.toLower := by
        simp [hexadecimalNumber, Nat.ofDigits_cons]
        omega
      rw [digitsValue?_concat, Option.bind_eq_some_iff, List.forall_mem_append,
        List.forall_mem_singleton, number]
      constructor
      · rintro ⟨first, earlier, last⟩
        obtain ⟨areDigits, rfl⟩ := induction.mp earlier
        by_cases isDigit : c ∈ hexadecimals
        · rw [digitValue?_of_hexadecimal c isDigit] at last
          cases last
          exact ⟨⟨areDigits, isDigit⟩, rfl⟩
        · rw [digitValue?_of_not_hexadecimal isDigit] at last
          cases last
      · rintro ⟨⟨areDigits, isDigit⟩, rfl⟩
        refine ⟨_, induction.mpr ⟨areDigits, rfl⟩, ?_⟩
        rw [digitValue?_of_hexadecimal c isDigit]
        rfl

/-! ## Writing digits -/

private theorem digitValue?_digitChar {digit : Nat} (small : digit < 16) :
    digitValue? 16 digit.digitChar = some digit := by
  revert digit
  decide

theorem digitsValue?_toDigits (value : Nat) :
    digitsValue? 16 (Nat.toDigits 16 value) = some value := by
  induction value using Nat.strongRecOn with
  | ind value induction =>
    by_cases small : value < 16
    · rw [Nat.toDigits_of_lt_base small]
      have read := digitValue?_digitChar small
      simp [digitsValue?, read]
    · have less : value / 16 < value := Nat.div_lt_self (by omega) (by decide)
      have last := digitValue?_digitChar (Nat.mod_lt value (by decide : 16 > 0))
      rw [Nat.toDigits_of_base_le (by decide) (by omega), digitsValue?_concat, induction _ less,
        last, Option.bind_some, Option.map_some, Nat.div_add_mod']

theorem digitsValue?_zeros (count : Nat) (digits : List Char) :
    digitsValue? 16 (List.replicate count '0' ++ digits) = digitsValue? 16 digits := by
  induction count with
  | zero => rfl
  | succ count induction => exact induction

theorem digitsValue?_hexPadded (width value : Nat) :
    digitsValue? 16 (hexPadded width value) = some value := by
  rw [hexPadded, digitsValue?_zeros]
  exact digitsValue?_toDigits value

private theorem mem_smallHexadecimals_of_toDigits {value : Nat} {c : Char}
    (member : c ∈ Nat.toDigits 16 value) : c ∈ smallHexadecimals := by
  have small : ∀ digit < 16, digit.digitChar ∈ smallHexadecimals := by decide
  induction value using Nat.strongRecOn with
  | ind value induction =>
    by_cases single : value < 16
    · rw [Nat.toDigits_of_lt_base single, List.mem_singleton] at member
      rw [member]
      exact small value single
    · rw [Nat.toDigits_of_base_le (by decide) (by omega), List.mem_append,
        List.mem_singleton] at member
      rcases member with earlier | rfl
      · exact induction _ (Nat.div_lt_self (by omega) (by decide)) earlier
      · exact small _ (Nat.mod_lt _ (by decide))

theorem mem_smallHexadecimals_of_hexPadded {width value : Nat} {c : Char}
    (member : c ∈ hexPadded width value) : c ∈ smallHexadecimals := by
  rcases List.mem_append.mp member with zero | digit
  · rw [List.eq_of_mem_replicate zero]
    decide
  · exact mem_smallHexadecimals_of_toDigits digit

/-- A number that fits a width is padded to just that width. -/
theorem length_hexPadded {width value : Nat} (positive : 0 < width) (fits : value < 16 ^ width) :
    (hexPadded width value).length = width := by
  have within : (Nat.toDigits 16 value).length ≤ width :=
    (Nat.length_toDigits_le_iff (by decide) positive).mpr fits
  rw [hexPadded, hexDigits, List.length_append, List.length_replicate]
  omega

/-- Capital letters have the same values. -/
theorem digitsValue?_upper {digits : List Char} (small : ∀ c ∈ digits, c ∈ smallHexadecimals) :
    digitsValue? 16 (upper digits) = digitsValue? 16 digits := by
  have same : ∀ c ∈ smallHexadecimals, digitValue? 16 c.toUpper = digitValue? 16 c :=
    List.forall_iff_forall_mem.mp (by decide)
  induction digits using List.reverseRecOn with
  | nil => rfl
  | append_singleton digits c induction =>
      have isSmall := same c (small c (by simp))
      have earlier := induction fun other member => small other (by simp [member])
      rw [upper, List.map_append, List.map_singleton, digitsValue?_concat, digitsValue?_concat,
        isSmall]
      rw [upper] at earlier
      rw [earlier]

end Text

end RemoteInput
