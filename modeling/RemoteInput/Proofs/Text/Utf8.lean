import RemoteInput.Text.Utf8

/-!
# UTF-8 reads what it writes

A step reads a character exactly if the bytes begin with the encoding of that
character.  So the bytes that are text are exactly the encodings of texts, and
each has one reading: `decode?_eq_some_iff`.
-/

namespace RemoteInput

namespace Utf8

private theorem toNat_ofNat_char {n : Nat} (valid : n.isValidChar) :
    (Char.ofNat n).toNat = n := by
  unfold Char.ofNat
  rw [dif_pos valid]
  rfl

private theorem eq_ofNat {byte : UInt8} {n : Nat} (same : byte.toNat = n) :
    UInt8.ofNat n = byte := by
  rw [← same, UInt8.ofNat_toNat]

private theorem tailLength?_eq (lead : UInt8) :
    tailLength? lead =
      if lead.toNat < 0x80 then some 0
      else if 0xC2 ≤ lead.toNat ∧ lead.toNat ≤ 0xDF then some 1
      else if 0xE0 ≤ lead.toNat ∧ lead.toNat ≤ 0xEF then some 2
      else if 0xF0 ≤ lead.toNat ∧ lead.toNat ≤ 0xF4 then some 3
      else none := by
  simp [tailLength?, UInt8.lt_iff_toNat_lt, UInt8.le_iff_toNat_le]

private theorem tailLength?_cases (lead : UInt8) :
    tailLength? lead = none ∨
    (lead.toNat < 0x80 ∧ tailLength? lead = some 0) ∨
    ((0xC2 ≤ lead.toNat ∧ lead.toNat ≤ 0xDF) ∧ tailLength? lead = some 1) ∨
    ((0xE0 ≤ lead.toNat ∧ lead.toNat ≤ 0xEF) ∧ tailLength? lead = some 2) ∨
    ((0xF0 ≤ lead.toNat ∧ lead.toNat ≤ 0xF4) ∧ tailLength? lead = some 3) := by
  rw [tailLength?_eq]
  repeat' split
  all_goals simp_all

private theorem isContinuation_iff {byte : UInt8} :
    isContinuation byte = true ↔ 0x80 ≤ byte.toNat ∧ byte.toNat ≤ 0xBF := by
  simp [isContinuation, inside, UInt8.le_iff_toNat_le]

private theorem inside_secondRange_iff {lead byte : UInt8} :
    inside (secondRange lead) byte = true ↔
      0x80 ≤ byte.toNat ∧ byte.toNat ≤ 0xBF ∧
        (lead.toNat = 0xE0 → 0xA0 ≤ byte.toNat) ∧
        (lead.toNat = 0xED → byte.toNat ≤ 0x9F) ∧
        (lead.toNat = 0xF0 → 0x90 ≤ byte.toNat) ∧
        (lead.toNat = 0xF4 → byte.toNat ≤ 0x8F) := by
  unfold secondRange inside
  simp only [← UInt8.toNat_inj]
  repeat' split
  all_goals
    simp_all [UInt8.le_iff_toNat_le]
    try omega

/-! ## A step reads an encoding -/

private theorem encodeChar_one {lead : UInt8} (low : lead.toNat < 0x80) :
    encodeChar (Char.ofNat lead.toNat) = [lead] := by
  have value := toNat_ofNat_char (n := lead.toNat) (.inl (by omega))
  unfold encodeChar
  simp only [value]
  rw [if_pos low, UInt8.ofNat_toNat]

private theorem encodeChar_two {lead second : UInt8}
    (leads : 0xC2 ≤ lead.toNat ∧ lead.toNat ≤ 0xDF)
    (follows : isContinuation second = true) :
    encodeChar (Char.ofNat (lead.toNat % 0x20 * 0x40 + payload second)) =
      [lead, second] := by
  rw [isContinuation_iff] at follows
  unfold payload
  have value := toNat_ofNat_char
    (n := lead.toNat % 0x20 * 0x40 + second.toNat % 0x40) (.inl (by omega))
  unfold encodeChar
  simp only [value]
  rw [if_neg (by omega), if_pos (by omega), eq_ofNat (show lead.toNat = _ by omega),
    eq_ofNat (show second.toNat = _ by omega)]

private theorem encodeChar_three {lead second third : UInt8}
    (leads : 0xE0 ≤ lead.toNat ∧ lead.toNat ≤ 0xEF)
    (follows : inside (secondRange lead) second = true)
    (ends : isContinuation third = true) :
    encodeChar (Char.ofNat
        (lead.toNat % 0x10 * 0x1000 + payload second * 0x40 + payload third)) =
      [lead, second, third] := by
  rw [inside_secondRange_iff] at follows
  rw [isContinuation_iff] at ends
  unfold payload
  have valid : Nat.isValidChar (lead.toNat % 0x10 * 0x1000
      + second.toNat % 0x40 * 0x40 + third.toNat % 0x40) := by
    by_cases early : lead.toNat ≤ 0xED
    · left
      omega
    · right
      omega
  unfold encodeChar
  simp only [toNat_ofNat_char valid]
  rw [if_neg (by omega), if_neg (by omega), if_pos (by omega),
    eq_ofNat (show lead.toNat = _ by omega), eq_ofNat (show second.toNat = _ by omega),
    eq_ofNat (show third.toNat = _ by omega)]

private theorem encodeChar_four {lead second third fourth : UInt8}
    (leads : 0xF0 ≤ lead.toNat ∧ lead.toNat ≤ 0xF4)
    (follows : inside (secondRange lead) second = true)
    (goesOn : isContinuation third = true) (ends : isContinuation fourth = true) :
    encodeChar (Char.ofNat (lead.toNat % 0x08 * 0x40000 + payload second * 0x1000
        + payload third * 0x40 + payload fourth)) =
      [lead, second, third, fourth] := by
  rw [inside_secondRange_iff] at follows
  rw [isContinuation_iff] at goesOn ends
  unfold payload
  have value := toNat_ofNat_char
    (n := lead.toNat % 0x08 * 0x40000 + second.toNat % 0x40 * 0x1000
      + third.toNat % 0x40 * 0x40 + fourth.toNat % 0x40) (.inr (by omega))
  unfold encodeChar
  simp only [value]
  rw [if_neg (by omega), if_neg (by omega), if_neg (by omega),
    eq_ofNat (show lead.toNat = _ by omega), eq_ofNat (show second.toNat = _ by omega),
    eq_ofNat (show third.toNat = _ by omega), eq_ofNat (show fourth.toNat = _ by omega)]

/-- A step that reads a character has read its encoding. -/
theorem encodeChar_of_step {lead : UInt8} {rest left : List UInt8} {c : Char}
    (read : step lead rest = (.character c, left)) :
    encodeChar c ++ left = lead :: rest := by
  unfold step at read
  rcases tailLength?_cases lead with
    none | ⟨low, one⟩ | ⟨leads, two⟩ | ⟨leads, three⟩ | ⟨leads, four⟩
  · simp [none] at read
  · simp only [one, Prod.mk.injEq, Step.character.injEq] at read
    obtain ⟨rfl, rfl⟩ := read
    rw [encodeChar_one low]
    rfl
  · simp only [two] at read
    split at read
    · split at read
      · next follows =>
        simp only [Prod.mk.injEq, Step.character.injEq] at read
        obtain ⟨rfl, rfl⟩ := read
        rw [encodeChar_two leads follows]
        rfl
      · simp at read
    · simp at read
  · simp only [three] at read
    split at read
    · split at read
      · next follows =>
        split at read
        · split at read
          · next ends =>
            simp only [Prod.mk.injEq, Step.character.injEq] at read
            obtain ⟨rfl, rfl⟩ := read
            rw [encodeChar_three leads follows ends]
            rfl
          · simp at read
        · simp at read
      · simp at read
    · simp at read
  · simp only [four] at read
    split at read
    · split at read
      · next follows =>
        split at read
        · split at read
          · next goesOn =>
            split at read
            · split at read
              · next ends =>
                simp only [Prod.mk.injEq, Step.character.injEq] at read
                obtain ⟨rfl, rfl⟩ := read
                rw [encodeChar_four leads follows goesOn ends]
                rfl
              · simp at read
            · simp at read
          · simp at read
        · simp at read
      · simp at read
    · simp at read

private theorem isContinuation_ofNat {n : Nat} :
    isContinuation (UInt8.ofNat (0x80 + n % 0x40)) = true := by
  rw [isContinuation_iff, UInt8.toNat_ofNat']
  omega

private theorem payload_ofNat {n : Nat} :
    payload (UInt8.ofNat (0x80 + n % 0x40)) = n % 0x40 := by
  unfold payload
  rw [UInt8.toNat_ofNat']
  omega

private theorem step_one {n : Nat} {rest : List UInt8} (low : n < 0x80) :
    step (UInt8.ofNat n) rest = (.character (Char.ofNat n), rest) := by
  have lead : (UInt8.ofNat n).toNat = n := by
    rw [UInt8.toNat_ofNat']
    omega
  have length : tailLength? (UInt8.ofNat n) = some 0 := by
    rw [tailLength?_eq, lead, if_pos low]
  simp [step, length, lead]

private theorem step_two {n : Nat} {rest : List UInt8}
    (low : 0x80 ≤ n) (high : n < 0x800) :
    step (UInt8.ofNat (0xC0 + n / 0x40))
        (UInt8.ofNat (0x80 + n % 0x40) :: rest) =
      (.character (Char.ofNat n), rest) := by
  have lead : (UInt8.ofNat (0xC0 + n / 0x40)).toNat = 0xC0 + n / 0x40 := by
    rw [UInt8.toNat_ofNat']
    omega
  have length : tailLength? (UInt8.ofNat (0xC0 + n / 0x40)) = some 1 := by
    rw [tailLength?_eq, lead, if_neg (by omega), if_pos (by omega)]
  have value : (0xC0 + n / 0x40) % 0x20 * 0x40 + n % 0x40 = n := by
    omega
  simp only [step, length, isContinuation_ofNat, if_true, lead, payload_ofNat, value]

private theorem step_three {n : Nat} {rest : List UInt8}
    (low : 0x800 ≤ n) (high : n < 0x10000) (valid : n < 0xD800 ∨ 0xDFFF < n) :
    step (UInt8.ofNat (0xE0 + n / 0x1000))
        (UInt8.ofNat (0x80 + n / 0x40 % 0x40) ::
          UInt8.ofNat (0x80 + n % 0x40) :: rest) =
      (.character (Char.ofNat n), rest) := by
  have lead : (UInt8.ofNat (0xE0 + n / 0x1000)).toNat = 0xE0 + n / 0x1000 := by
    rw [UInt8.toNat_ofNat']
    omega
  have length : tailLength? (UInt8.ofNat (0xE0 + n / 0x1000)) = some 2 := by
    rw [tailLength?_eq, lead, if_neg (by omega), if_neg (by omega),
      if_pos (by omega)]
  have follows : inside (secondRange (UInt8.ofNat (0xE0 + n / 0x1000)))
      (UInt8.ofNat (0x80 + n / 0x40 % 0x40)) = true := by
    rw [inside_secondRange_iff, lead, UInt8.toNat_ofNat']
    omega
  have value : (0xE0 + n / 0x1000) % 0x10 * 0x1000 + n / 0x40 % 0x40 * 0x40
      + n % 0x40 = n := by
    omega
  simp only [step, length, follows, isContinuation_ofNat, if_true, lead,
    payload_ofNat, value]

private theorem step_four {n : Nat} {rest : List UInt8}
    (low : 0x10000 ≤ n) (high : n < 0x110000) :
    step (UInt8.ofNat (0xF0 + n / 0x40000))
        (UInt8.ofNat (0x80 + n / 0x1000 % 0x40) ::
          UInt8.ofNat (0x80 + n / 0x40 % 0x40) ::
          UInt8.ofNat (0x80 + n % 0x40) :: rest) =
      (.character (Char.ofNat n), rest) := by
  have lead : (UInt8.ofNat (0xF0 + n / 0x40000)).toNat = 0xF0 + n / 0x40000 := by
    rw [UInt8.toNat_ofNat']
    omega
  have length : tailLength? (UInt8.ofNat (0xF0 + n / 0x40000)) = some 3 := by
    rw [tailLength?_eq, lead, if_neg (by omega), if_neg (by omega),
      if_neg (by omega), if_pos (by omega)]
  have follows : inside (secondRange (UInt8.ofNat (0xF0 + n / 0x40000)))
      (UInt8.ofNat (0x80 + n / 0x1000 % 0x40)) = true := by
    rw [inside_secondRange_iff, lead, UInt8.toNat_ofNat']
    omega
  have value : (0xF0 + n / 0x40000) % 0x08 * 0x40000 + n / 0x1000 % 0x40 * 0x1000
      + n / 0x40 % 0x40 * 0x40 + n % 0x40 = n := by
    omega
  simp only [step, length, follows, isContinuation_ofNat, if_true, lead,
    payload_ofNat, value]

/-- The encoding of a character is read by one step. -/
theorem steps_encodeChar (c : Char) (rest : List UInt8) :
    steps (encodeChar c ++ rest) = .character c :: steps rest := by
  have valid : c.toNat < 0xD800 ∨ (0xDFFF < c.toNat ∧ c.toNat < 0x110000) := c.valid
  have back : Char.ofNat c.toNat = c := Char.ofNat_toNat c
  unfold encodeChar
  dsimp only
  split
  · next one =>
    rw [List.cons_append, List.nil_append, steps, step_one one, back]
  · split
    · next two =>
      rw [List.cons_append, List.cons_append, List.nil_append, steps,
        step_two (by omega) two, back]
    · split
      · next three =>
        rw [List.cons_append, List.cons_append, List.cons_append, List.nil_append,
          steps, step_three (by omega) three (by omega), back]
      · rw [List.cons_append, List.cons_append, List.cons_append, List.cons_append,
          List.nil_append, steps, step_four (by omega) (by omega), back]

/-! ## Texts and their encodings -/

theorem encode_cons (c : Char) (text : List Char) :
    encode (c :: text) = encodeChar c ++ encode text := by
  rfl

/-- Every text is read back from its encoding. -/
theorem decode?_encode (text : List Char) :
    decode? (encode text) = some text := by
  unfold decode?
  induction text with
  | nil =>
      simp [encode, steps]
  | cons c text ih =>
      rw [encode_cons, steps_encodeChar, List.mapM_cons, ih]
      rfl

/-- Lenient reading finds nothing broken in an encoding. -/
theorem decodeLossy_encode (text : List Char) : decodeLossy (encode text) = text := by
  induction text with
  | nil => simp [decodeLossy, encode, steps]
  | cons c text induction =>
      unfold decodeLossy at induction ⊢
      rw [encode_cons, steps_encodeChar, List.map_cons, induction]

/-- Bytes that are read as a text are the encoding of that text. -/
theorem eq_encode_of_decode? {bytes : List UInt8} {text : List Char}
    (read : decode? bytes = some text) :
    bytes = encode text := by
  unfold decode? at read
  induction bytes using steps.induct generalizing text with
  | case1 =>
      simp [steps] at read
      rw [read]
      rfl
  | case2 lead rest ih =>
      rw [steps] at read
      cases stepped : step lead rest with
      | mk read? left =>
          rw [stepped] at read ih
          cases read? with
          | broken =>
              simp at read
          | character c =>
              rw [List.mapM_cons] at read
              simp only [Option.bind_eq_bind, Option.bind_some,
                Option.bind_eq_some_iff, Option.pure_def, Option.some.injEq] at read
              obtain ⟨texts, readRest, rfl⟩ := read
              rw [encode_cons, ← ih readRest]
              exact (encodeChar_of_step stepped).symm

/-- The bytes that are text are exactly the encodings of texts. -/
theorem decode?_eq_some_iff {bytes : List UInt8} {text : List Char} :
    decode? bytes = some text ↔ bytes = encode text := by
  constructor
  · exact eq_encode_of_decode?
  · intro same
    rw [same]
    exact decode?_encode text

private theorem toNat_of_mem_encodeChar {c : Char} {byte : UInt8}
    (low : byte.toNat < 0x80) (member : byte ∈ encodeChar c) :
    c.toNat = byte.toNat := by
  have valid : c.toNat < 0xD800 ∨ (0xDFFF < c.toNat ∧ c.toNat < 0x110000) := c.valid
  have high : ∀ n, 0x80 ≤ n → n < 0x100 → byte ≠ UInt8.ofNat n := by
    intro n above below same
    rw [same, UInt8.toNat_ofNat'] at low
    omega
  unfold encodeChar at member
  dsimp only at member
  by_cases one : c.toNat < 0x80
  · rw [if_pos one, List.mem_singleton] at member
    rw [member, UInt8.toNat_ofNat']
    omega
  · rw [if_neg one] at member
    by_cases two : c.toNat < 0x800
    · rw [if_pos two] at member
      simp only [List.mem_cons, List.not_mem_nil, or_false] at member
      rcases member with lead | second
      · exact absurd lead (high _ (by omega) (by omega))
      · exact absurd second (high _ (by omega) (by omega))
    · rw [if_neg two] at member
      by_cases three : c.toNat < 0x10000
      · rw [if_pos three] at member
        simp only [List.mem_cons, List.not_mem_nil, or_false] at member
        rcases member with lead | second | third
        · exact absurd lead (high _ (by omega) (by omega))
        · exact absurd second (high _ (by omega) (by omega))
        · exact absurd third (high _ (by omega) (by omega))
      · rw [if_neg three] at member
        simp only [List.mem_cons, List.not_mem_nil, or_false] at member
        rcases member with lead | second | third | fourth
        · exact absurd lead (high _ (by omega) (by omega))
        · exact absurd second (high _ (by omega) (by omega))
        · exact absurd third (high _ (by omega) (by omega))
        · exact absurd fourth (high _ (by omega) (by omega))

/-- An ASCII byte in the encoding of a text stands for that character. -/
theorem mem_of_mem_encode {text : List Char} {byte : UInt8}
    (low : byte.toNat < 0x80) (member : byte ∈ encode text) :
    Char.ofNat byte.toNat ∈ text := by
  unfold encode at member
  obtain ⟨c, inText, inChar⟩ := List.mem_flatMap.mp member
  rw [← toNat_of_mem_encodeChar low inChar, Char.ofNat_toNat]
  exact inText

/-! ## Strings -/

private theorem encodeChar_eq (c : Char) :
    encodeChar c = String.utf8EncodeChar c := by
  have valid : c.toNat < 0xD800 ∨ (0xDFFF < c.toNat ∧ c.toNat < 0x110000) := c.valid
  have value : c.val.toNat = c.toNat := rfl
  unfold encodeChar String.utf8EncodeChar
  simp only [value]
  by_cases one : c.toNat < 0x80
  · rw [if_pos one, if_pos (show c.toNat ≤ 0x7F by omega)]
  · rw [if_neg one, if_neg (show ¬ c.toNat ≤ 0x7F by omega)]
    by_cases two : c.toNat < 0x800
    · rw [if_pos two, if_pos (show c.toNat ≤ 0x7FF by omega)]
      have lead : 0xC0 + c.toNat / 0x40 = c.toNat / 64 % 0x20 + 0xC0 := by omega
      rw [lead, Nat.add_comm 0x80]
    · rw [if_neg two, if_neg (show ¬ c.toNat ≤ 0x7FF by omega)]
      by_cases three : c.toNat < 0x10000
      · rw [if_pos three, if_pos (show c.toNat ≤ 0xFFFF by omega)]
        have lead : 0xE0 + c.toNat / 0x1000 = c.toNat / 4096 % 0x10 + 0xE0 := by
          omega
        rw [lead, Nat.add_comm 0x80, Nat.add_comm 0x80]
      · rw [if_neg three, if_neg (show ¬ c.toNat ≤ 0xFFFF by omega)]
        have lead : 0xF0 + c.toNat / 0x40000 = c.toNat / 262144 % 0x08 + 0xF0 := by
          omega
        rw [lead, Nat.add_comm 0x80, Nat.add_comm 0x80, Nat.add_comm 0x80]

theorem toByteArray_encode (text : List Char) :
    (encode text).toByteArray = (String.ofList text).toByteArray := by
  have same : encodeChar = String.utf8EncodeChar := funext encodeChar_eq
  unfold encode
  rw [same, String.toByteArray_ofList]
  rfl

theorem length_encode (text : List Char) :
    (encode text).length = (String.ofList text).utf8ByteSize := by
  rw [← String.size_toByteArray, ← toByteArray_encode, List.size_toByteArray]

/-- Strict reading is that of strings. -/
theorem fromUTF8?_toByteArray (bytes : List UInt8) :
    String.fromUTF8? bytes.toByteArray = (decode? bytes).map String.ofList := by
  unfold String.fromUTF8?
  split
  · next valid =>
    obtain ⟨text, same⟩ := String.exists_eq_ofList (String.fromUTF8 _ valid)
    have encoded : bytes = encode text := by
      rw [← List.toByteArray_inj, toByteArray_encode, ← same]
      rfl
    rw [same, decode?_eq_some_iff.mpr encoded]
    rfl
  · next invalid =>
    cases read : decode? bytes with
    | none => rfl
    | some text =>
        rw [decode?_eq_some_iff.mp read, toByteArray_encode] at invalid
        exact absurd (String.ofList text).isValidUTF8 invalid

end Utf8

end RemoteInput
