import RemoteInput.Text.Base64

/-!
# Base64 reads what it writes

A text in base64 is made of symbols and padding: the symbols of `values`, and as
much padding as completes their last group.  The bytes are read back from the
symbols, whatever part of the padding stays: `decode?_of_padding`.  No other text is
read: `decode?_eq_some_iff`.
-/

namespace RemoteInput

namespace Base64

/-- A symbol of the alphabet, or padding. -/
inductive IsSymbol : Char → Prop where
  | symbol (value : Nat) : IsSymbol (Base64.symbol value)
  | pad : IsSymbol Base64.pad

theorem isSymbol_of_mem {bytes : List UInt8} {c : Char} (member : c ∈ encode bytes) :
    IsSymbol c := by
  induction bytes using encode.induct with
  | case1 => cases member
  | case2 a =>
      simp only [encode, List.mem_cons, List.not_mem_nil, or_false] at member
      rcases member with rfl | rfl | rfl | rfl
      · exact .symbol _
      · exact .symbol _
      · exact .pad
      · exact .pad
  | case3 a b =>
      simp only [encode, List.mem_cons, List.not_mem_nil, or_false] at member
      rcases member with rfl | rfl | rfl | rfl
      · exact .symbol _
      · exact .symbol _
      · exact .symbol _
      · exact .pad
  | case4 a b c rest ih =>
      simp only [encode, List.mem_cons] at member
      rcases member with rfl | rfl | rfl | rfl | later
      · exact .symbol _
      · exact .symbol _
      · exact .symbol _
      · exact .symbol _
      · exact ih later

theorem symbol_of_le {value : Nat} (beyond : 64 ≤ value) : symbol value = '/' := by
  unfold symbol
  rw [if_neg (by omega), if_neg (by omega), if_neg (by omega), if_neg (by omega)]

/-- A symbol is a letter, a digit, a plus sign, a slash or an equals sign. -/
theorem IsSymbol.isGraphic {c : Char} (isSymbol : IsSymbol c) :
    0x20 < c.toNat ∧ c.toNat < 0x7F := by
  have small : ∀ value < 64, 0x20 < (Base64.symbol value).toNat ∧
      (Base64.symbol value).toNat < 0x7F := by
    decide
  cases isSymbol with
  | symbol value =>
      by_cases inAlphabet : value < 64
      · exact small value inAlphabet
      · rw [symbol_of_le (Nat.le_of_not_lt inAlphabet)]
        decide
  | pad => decide

/-! ## Reading back -/

/-- The values of the symbols of a list of bytes, without padding. -/
def values : List UInt8 → List Nat
  | [] => []
  | [a] => [a.toNat / 4, a.toNat % 4 * 16]
  | [a, b] =>
      let n := a.toNat * 256 + b.toNat
      [n / 1024, n / 16 % 64, n % 16 * 4]
  | a :: b :: c :: rest =>
      let n := a.toNat * 65536 + b.toNat * 256 + c.toNat
      n / 262144 :: n / 4096 % 64 :: n / 64 % 64 :: n % 64 :: values rest

theorem encode_eq (bytes : List UInt8) :
    encode bytes = (values bytes).map symbol ++
      List.replicate (padding (values bytes).length) pad := by
  induction bytes using encode.induct with
  | case1 => rfl
  | case2 a => rfl
  | case3 a b => rfl
  | case4 a b c rest induction =>
      have whole : padding (values rest).length.succ.succ.succ.succ =
          padding (values rest).length := by
        simp only [padding]
        omega
      simp [encode, values, induction, whole]

theorem lt_of_mem_values {bytes : List UInt8} {value : Nat}
    (member : value ∈ values bytes) : value < 64 := by
  induction bytes using values.induct with
  | case1 => simp [values] at member
  | case2 a =>
      have small := a.toNat_lt
      simp only [values, List.mem_cons, List.not_mem_nil, or_false] at member
      omega
  | case3 a b =>
      have first := a.toNat_lt
      have second := b.toNat_lt
      simp only [values, List.mem_cons, List.not_mem_nil, or_false] at member
      omega
  | case4 a b c rest induction =>
      have first := a.toNat_lt
      have second := b.toNat_lt
      have third := c.toNat_lt
      simp only [values, List.mem_cons] at member
      rcases member with rfl | rfl | rfl | rfl | later
      · omega
      · omega
      · omega
      · omega
      · exact induction later

private theorem eq_ofNat {byte : UInt8} {n : Nat} (same : n = byte.toNat) :
    UInt8.ofNat n = byte := by
  rw [same, UInt8.ofNat_toNat]

private theorem decodeLast?_two (a : UInt8) :
    decodeLast? [a.toNat / 4, a.toNat % 4 * 16] = some [a] := by
  have spare : a.toNat % 4 * 16 % 16 = 0 := by omega
  have first : UInt8.ofNat (a.toNat / 4 * 4 + a.toNat % 4 * 16 / 16) = a :=
    eq_ofNat (by omega)
  rw [decodeLast?, if_pos spare, first]

private theorem decodeLast?_three {n : Nat} {a b : UInt8}
    (number : n = a.toNat * 256 + b.toNat) :
    decodeLast? [n / 1024, n / 16 % 64, n % 16 * 4] = some [a, b] := by
  have small := b.toNat_lt
  have spare : n % 16 * 4 % 4 = 0 := by omega
  have whole : n / 1024 * 4096 + n / 16 % 64 * 64 + n % 16 * 4 = n * 4 := by omega
  have first : UInt8.ofNat (n * 4 / 1024) = a := eq_ofNat (by omega)
  have second : UInt8.ofNat (n * 4 / 4 % 256) = b := eq_ofNat (by omega)
  simp only [decodeLast?, spare, whole, first, second, if_true]

private theorem decodeValues?_four {n : Nat} {a b c : UInt8}
    (number : n = a.toNat * 65536 + b.toNat * 256 + c.toNat) {rest : List Nat}
    {bytes : List UInt8} (read : decodeValues? rest = some bytes) :
    decodeValues? (n / 262144 :: n / 4096 % 64 :: n / 64 % 64 :: n % 64 :: rest) =
      some (a :: b :: c :: bytes) := by
  have middle := b.toNat_lt
  have last := c.toNat_lt
  have whole : n / 262144 * 262144 + n / 4096 % 64 * 4096 + n / 64 % 64 * 64 + n % 64 =
      n := by omega
  have first : UInt8.ofNat (n / 65536) = a := eq_ofNat (by omega)
  have second : UInt8.ofNat (n / 256 % 256) = b := eq_ofNat (by omega)
  have third : UInt8.ofNat (n % 256) = c := eq_ofNat (by omega)
  simp only [decodeValues?, read, whole, first, second, third]
  rfl

theorem decodeValues?_values (bytes : List UInt8) :
    decodeValues? (values bytes) = some bytes := by
  induction bytes using values.induct with
  | case1 => rfl
  | case2 a => exact decodeLast?_two a
  | case3 a b => exact decodeLast?_three rfl
  | case4 a b c rest induction => exact decodeValues?_four rfl induction

theorem value?_symbol {value : Nat} (small : value < 64) :
    value? (symbol value) = some value := by
  have all : ∀ value < 64, value? (symbol value) = some value := by decide
  exact all value small

private theorem symbol_ne_pad {value : Nat} (small : value < 64) : symbol value ≠ pad := by
  have all : ∀ value < 64, symbol value ≠ pad := by decide
  exact all value small

theorem mapM_value? {values : List Nat} (small : ∀ value ∈ values, value < 64) :
    (values.map symbol).mapM value? = some values := by
  induction values with
  | nil => rfl
  | cons value rest induction =>
      have later := induction fun other member => small other (List.mem_cons_of_mem _ member)
      simp [value?_symbol (small value List.mem_cons_self), later]

/-- The padding may be left out in part or whole. -/
theorem decode?_of_padding (bytes : List UInt8) {count : Nat}
    (atMost : count ≤ padding (values bytes).length) :
    decode? ((values bytes).map symbol ++ List.replicate count pad) = some bytes := by
  have solid : ∀ c ∈ (values bytes).map symbol, decide (c ≠ pad) = true := by
    intro c member
    obtain ⟨value, isValue, rfl⟩ := List.mem_map.mp member
    simpa using symbol_ne_pad (lt_of_mem_values isValue)
  have symbols : ((values bytes).map symbol ++ List.replicate count pad).takeWhile
      (fun c => decide (c ≠ pad)) = (values bytes).map symbol := by
    rw [List.takeWhile_append_of_pos solid]
    simp
  have tail : ((values bytes).map symbol ++ List.replicate count pad).dropWhile
      (fun c => decide (c ≠ pad)) = List.replicate count pad := by
    rw [List.dropWhile_append_of_pos solid]
    simp
  have small : ∀ value ∈ values bytes, value < 64 := fun _ => lt_of_mem_values
  have read := mapM_value? small
  rw [decode?]
  simp only [symbols, tail, read]
  simp [atMost, decodeValues?_values]

/-- The bytes are read back from their text. -/
theorem decode?_encode (bytes : List UInt8) : decode? (encode bytes) = some bytes := by
  rw [encode_eq]
  exact decode?_of_padding bytes (Nat.le_refl _)

/-! ## What is read -/

private theorem isGraphic_of_value? {c : Char} {value : Nat} (read : value? c = some value) :
    0x20 < c.toNat ∧ c.toNat < 0x7F := by
  have between : ∀ first last : Char, 0x20 < first.toNat → last.toNat < 0x7F →
      first ≤ c → c ≤ last → 0x20 < c.toNat ∧ c.toNat < 0x7F := by
    intro first last low high above below
    have least : first.toNat ≤ c.toNat := above
    have most : c.toNat ≤ last.toNat := below
    omega
  unfold value? at read
  split at read
  · next upper =>
    simp only [Bool.and_eq_true, decide_eq_true_eq] at upper
    exact between 'A' 'Z' (by decide) (by decide) upper.1 upper.2
  · split at read
    · next lower =>
      simp only [Bool.and_eq_true, decide_eq_true_eq] at lower
      exact between 'a' 'z' (by decide) (by decide) lower.1 lower.2
    · split at read
      · next digit =>
        simp only [Bool.and_eq_true, decide_eq_true_eq] at digit
        exact between '0' '9' (by decide) (by decide) digit.1 digit.2
      · split at read
        · next plus => simp [plus]
        · split at read
          · next slash => simp [slash]
          · cases read

/-- A character has a value only as the symbol of that value. -/
private theorem symbol_of_value? {c : Char} {value : Nat} (read : value? c = some value) :
    value < 64 ∧ symbol value = c := by
  have all : ∀ n < 0x7F, (value? (Char.ofNat n)).all
      (fun value => value < 64 && symbol value == Char.ofNat n) = true := by
    decide +kernel
  have found := all c.toNat (isGraphic_of_value? read).2
  rw [Char.ofNat_toNat, read] at found
  simpa using found

theorem symbols_of_mapM_value? {symbols : List Char} {values : List Nat}
    (read : symbols.mapM value? = some values) :
    values.map symbol = symbols ∧ ∀ value ∈ values, value < 64 := by
  induction symbols generalizing values with
  | nil =>
      cases read
      exact ⟨rfl, nofun⟩
  | cons c rest induction =>
      simp only [List.mapM_cons, Option.bind_eq_bind, Option.bind_eq_some_iff] at read
      obtain ⟨value, isValue, others, readRest, whole⟩ := read
      cases whole
      obtain ⟨small, same⟩ := symbol_of_value? isValue
      obtain ⟨sameRest, smallRest⟩ := induction readRest
      constructor
      · rw [List.map_cons, same, sameRest]
      · intro other member
        rcases List.mem_cons.mp member with rfl | later
        · exact small
        · exact smallRest other later

private theorem toNat_ofNat {n : Nat} (small : n < 256) : (UInt8.ofNat n).toNat = n := by
  rw [UInt8.toNat_ofNat', Nat.mod_eq_of_lt small]

private theorem values_of_decodeLast? {given : List Nat} {bytes : List UInt8}
    (small : ∀ value ∈ given, value < 64) (read : decodeLast? given = some bytes) :
    values bytes = given := by
  fun_cases decodeLast? given with
  | case1 =>
      cases read
      rfl
  | case2 u v spare =>
      simp only [List.mem_cons, List.not_mem_nil, or_false, forall_eq_or_imp, forall_eq] at small
      rw [decodeLast?, if_pos spare, Option.some.injEq] at read
      subst read
      simp only [values, List.cons.injEq, and_true]
      rw [toNat_ofNat (by omega)]
      omega
  | case3 u v spare =>
      rw [decodeLast?, if_neg spare] at read
      cases read
  | case4 u v w spare n =>
      simp only [List.mem_cons, List.not_mem_nil, or_false, forall_eq_or_imp, forall_eq] at small
      rw [decodeLast?, if_pos spare, Option.some.injEq] at read
      subst read
      simp only [values, List.cons.injEq, and_true]
      rw [toNat_ofNat (by omega), toNat_ofNat (by omega)]
      omega
  | case5 u v w spare =>
      rw [decodeLast?, if_neg spare] at read
      cases read
  | case6 _ none two three =>
      rw [decodeLast?.eq_4 _ none two three] at read
      cases read

/-- Bytes are read only from the values that they have. -/
theorem values_of_decodeValues? {given : List Nat} {bytes : List UInt8}
    (small : ∀ value ∈ given, value < 64) (read : decodeValues? given = some bytes) :
    values bytes = given := by
  induction given using decodeValues?.induct generalizing bytes with
  | case1 u v w x rest induction =>
      simp only [List.mem_cons, forall_eq_or_imp] at small
      obtain ⟨first, second, third, fourth, later⟩ := small
      simp only [decodeValues?, Option.bind_eq_bind, Option.bind_eq_some_iff,
        Option.some.injEq] at read
      obtain ⟨tail, readRest, rfl⟩ := read
      simp only [values, induction later readRest, List.cons.injEq, and_true]
      rw [toNat_ofNat (by omega), toNat_ofNat (by omega), toNat_ofNat (by omega)]
      omega
  | case2 last short =>
      rw [decodeValues?.eq_2 last short] at read
      exact values_of_decodeLast? small read

/-! ## Texts with some of their padding -/

/-- A text that spells bytes: it is their text in base64, with some of the padding
left out or none. -/
def Spells (text : List Char) (bytes : List UInt8) : Prop :=
  ∃ count, encode bytes = text ++ List.replicate count pad

theorem pad_not_mem_symbols (bytes : List UInt8) : pad ∉ (values bytes).map symbol := by
  intro member
  obtain ⟨value, isValue, isPad⟩ := List.mem_map.mp member
  exact symbol_ne_pad (lt_of_mem_values isValue) isPad

/-- Padding at the end of two equal texts: where one has no other padding, the other
has some of it. -/
theorem append_padding {symbols text : List Char} (clean : pad ∉ symbols)
    {count most : Nat}
    (same : symbols ++ List.replicate most pad = text ++ List.replicate count pad) :
    ∃ kept, kept + count = most ∧ text = symbols ++ List.replicate kept pad := by
  rcases List.append_eq_append_iff.mp same with ⟨pads, isText, isPads⟩ | ⟨pads, isSymbols, isPads⟩
  · obtain ⟨length, isKept, _⟩ := List.append_eq_replicate_iff.mp isPads.symm
    exact ⟨pads.length, by simpa using length, by rw [← isKept, isText]⟩
  · have nothing : pads = [] := by
      obtain ⟨_, arePads, _⟩ := List.append_eq_replicate_iff.mp isPads.symm
      cases pads with
      | nil => rfl
      | cons c pads =>
          have isPad : c = pad := by
            rw [List.length_cons, List.replicate_succ, List.cons.injEq] at arePads
            exact arePads.1
          exact absurd (by simp [isSymbols, isPad]) clean
    subst nothing
    refine ⟨0, ?_, ?_⟩
    · simpa using congrArg List.length isPads
    · simpa using isSymbols.symm

theorem spells_iff {text : List Char} {bytes : List UInt8} :
    Spells text bytes ↔ ∃ count ≤ padding (values bytes).length,
      text = (values bytes).map symbol ++ List.replicate count pad := by
  constructor
  · rintro ⟨count, spelled⟩
    rw [encode_eq] at spelled
    obtain ⟨kept, whole, isText⟩ := append_padding (pad_not_mem_symbols bytes) spelled
    exact ⟨kept, by omega, isText⟩
  · rintro ⟨count, atMost, rfl⟩
    refine ⟨padding (values bytes).length - count, ?_⟩
    rw [encode_eq, List.append_assoc, List.replicate_append_replicate, Nat.add_sub_cancel' atMost]

/-- What is read is what is spelled. -/
theorem decode?_eq_some_iff {text : List Char} {bytes : List UInt8} :
    decode? text = some bytes ↔ Spells text bytes := by
  rw [spells_iff]
  constructor
  · intro read
    unfold decode? at read
    dsimp only at read
    split at read
    · next padded =>
      simp only [Bool.and_eq_true, List.all_eq_true, decide_eq_true_eq] at padded
      simp only [Option.bind_eq_bind, Option.bind_eq_some_iff] at read
      obtain ⟨given, readSymbols, readValues⟩ := read
      obtain ⟨isSymbols, small⟩ := symbols_of_mapM_value? readSymbols
      have tail : text.dropWhile (· ≠ pad) =
          List.replicate (text.dropWhile (· ≠ pad)).length pad :=
        List.eq_replicate_iff.mpr ⟨rfl, padded.1⟩
      refine ⟨(text.dropWhile (· ≠ pad)).length, ?_, ?_⟩
      · rw [values_of_decodeValues? small readValues]
        rw [← isSymbols, List.length_map] at padded
        exact padded.2
      · rw [values_of_decodeValues? small readValues, isSymbols, ← tail,
          List.takeWhile_append_dropWhile]
    · cases read
  · rintro ⟨count, atMost, rfl⟩
    exact decode?_of_padding bytes atMost

theorem Spells.unique {text : List Char} {bytes other : List UInt8}
    (spells : Spells text bytes) (also : Spells text other) : bytes = other := by
  rw [← decode?_eq_some_iff] at spells also
  exact Option.some.inj (spells.symm.trans also)

/-- The padding of a text that spells bytes is completed in one way. -/
theorem Spells.encode_eq {text : List Char} {bytes : List UInt8} (spells : Spells text bytes) :
    encode bytes = text ++ List.replicate (padding text.length) pad := by
  obtain ⟨count, atMost, rfl⟩ := spells_iff.mp spells
  rw [Base64.encode_eq, List.append_assoc, List.replicate_append_replicate]
  congr 2
  have length : ((values bytes).map symbol ++ List.replicate count pad).length =
      (values bytes).length + count := by simp
  rw [length]
  unfold padding at atMost ⊢
  omega

theorem Spells.isSymbol {text : List Char} {bytes : List UInt8}
    (spells : Spells text bytes) {c : Char} (member : c ∈ text) : IsSymbol c := by
  obtain ⟨count, whole⟩ := spells
  have within : c ∈ encode bytes := by
    rw [whole]
    exact List.mem_append_left _ member
  exact isSymbol_of_mem within

end Base64

end RemoteInput
