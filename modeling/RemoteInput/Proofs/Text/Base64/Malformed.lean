import RemoteInput.Proofs.Text.Base64

/-!
# Texts that are not in base64

A text that spells no bytes has one of five faults: a character from outside the
alphabet, padding before its end, more padding than its last group needs, a last
group of one symbol, or a last symbol with bits left over.  The decoder looks at the
symbols, the padding and the last group one after the other, so a text is refused
exactly if it has a fault: `malformed_iff`.
-/

namespace RemoteInput

namespace Base64

/-- The last of some values has bits that belong to no byte and are not zero. -/
def HasSpareBits (given : List Nat) : Prop :=
  ∃ last ∈ given.getLast?,
    given.length % 4 = 2 ∧ last % 16 ≠ 0 ∨ given.length % 4 = 3 ∧ last % 4 ≠ 0

private theorem hasSpareBits_four {u v w x : Nat} {rest : List Nat} :
    HasSpareBits (u :: v :: w :: x :: rest) ↔ HasSpareBits rest := by
  have length : (u :: v :: w :: x :: rest).length % 4 = rest.length % 4 := by
    simp only [List.length_cons]
    omega
  unfold HasSpareBits
  rw [length]
  cases rest with
  | nil => simp
  | cons y rest => simp only [List.getLast?_cons_cons]

/-- Values are no bytes if the last one stands alone in its group or has spare bits. -/
theorem decodeValues?_eq_none_iff (given : List Nat) :
    decodeValues? given = none ↔ given.length % 4 = 1 ∨ HasSpareBits given := by
  induction given using decodeValues?.induct with
  | case1 u v w x rest induction =>
      have length : (u :: v :: w :: x :: rest).length % 4 = rest.length % 4 := by
        simp only [List.length_cons]
        omega
      rw [hasSpareBits_four, length, ← induction]
      cases read : decodeValues? rest <;> simp [decodeValues?, read]
  | case2 last short =>
      rw [decodeValues?.eq_2 last short]
      rcases last with _ | ⟨u, _ | ⟨v, _ | ⟨w, _ | ⟨x, rest⟩⟩⟩⟩
      · simp [decodeLast?, HasSpareBits]
      · simp [decodeLast?]
      · simp [decodeLast?, HasSpareBits]
      · simp [decodeLast?, HasSpareBits]
      · exact absurd rfl (short u v w x rest)

/-- What makes a text one that spells nothing. -/
inductive Malformed (text : List Char) : Prop where
  /-- A character that is neither in the alphabet nor padding. -/
  | foreign {c : Char} (member : c ∈ text) (other : ¬ IsSymbol c)
  /-- Padding that is not at the end. -/
  | inside {left right : List Char} {c : Char} (isText : text = left ++ pad :: c :: right)
      (symbol : c ≠ pad)
  /-- More padding than completes the last group. -/
  | padded {symbols : List Char} {count : Nat} (clean : pad ∉ symbols)
      (isText : text = symbols ++ List.replicate count pad)
      (much : padding symbols.length < count)
  /-- A last group of one symbol. -/
  | lone {symbols : List Char} {count : Nat} (clean : pad ∉ symbols)
      (isText : text = symbols ++ List.replicate count pad)
      (one : symbols.length % 4 = 1)
  /-- A last symbol with bits that belong to no byte and are not zero. -/
  | spare {symbols : List Char} {given : List Nat} {count : Nat} (clean : pad ∉ symbols)
      (isText : text = symbols ++ List.replicate count pad)
      (values : symbols.mapM value? = some given) (spare : HasSpareBits given)

/-- The text of bytes is cut in one way into symbols and padding. -/
private theorem symbols_of_spells {symbols : List Char} {count : Nat} {bytes : List UInt8}
    (clean : pad ∉ symbols)
    (spells : Spells (symbols ++ List.replicate count pad) bytes) :
    symbols = (values bytes).map symbol ∧ count ≤ padding (values bytes).length := by
  obtain ⟨most, atMost, same⟩ := spells_iff.mp spells
  obtain ⟨kept, whole, isSymbols⟩ := append_padding clean same
  cases kept with
  | zero =>
      rw [List.replicate_zero, List.append_nil] at isSymbols
      exact ⟨isSymbols.symm, by omega⟩
  | succ kept =>
      apply absurd _ (pad_not_mem_symbols bytes)
      rw [isSymbols]
      simp

/-- Behind padding there is nothing but padding. -/
private theorem eq_pad_of_spells {left right : List Char} {c : Char} {bytes : List UInt8}
    (spells : Spells (left ++ pad :: c :: right) bytes) : c = pad := by
  obtain ⟨count, _, whole⟩ := spells_iff.mp spells
  rcases List.append_eq_append_iff.mp whole with ⟨more, isSymbols, isPads⟩ | ⟨pads, _, isPads⟩
  · cases more with
    | nil =>
        have member : c ∈ List.replicate count pad := by
          rw [← List.nil_append (List.replicate count pad), ← isPads]
          simp
        exact List.eq_of_mem_replicate member
    | cons first more =>
        rw [List.cons_append, List.cons.injEq] at isPads
        apply absurd _ (pad_not_mem_symbols bytes)
        rw [isSymbols, ← isPads.1]
        simp
  · have member : c ∈ List.replicate count pad := by
      rw [isPads]
      simp
    exact List.eq_of_mem_replicate member

theorem Malformed.decode?_eq_none {text : List Char} (malformed : Malformed text) :
    decode? text = none := by
  rw [Option.eq_none_iff_forall_ne_some]
  intro bytes read
  have spells := decode?_eq_some_iff.mp read
  cases malformed with
  | foreign member other => exact other (spells.isSymbol member)
  | inside isText symbol =>
      rw [isText] at spells
      exact symbol (eq_pad_of_spells spells)
  | padded clean isText much =>
      rw [isText] at spells
      obtain ⟨rfl, atMost⟩ := symbols_of_spells clean spells
      rw [List.length_map] at much
      omega
  | lone clean isText one =>
      rw [isText] at spells
      obtain ⟨rfl, _⟩ := symbols_of_spells clean spells
      rw [List.length_map] at one
      have unread := (decodeValues?_eq_none_iff (values bytes)).mpr (.inl one)
      rw [decodeValues?_values] at unread
      cases unread
  | spare clean isText isValues spare =>
      rw [isText] at spells
      obtain ⟨rfl, _⟩ := symbols_of_spells clean spells
      rw [mapM_value? fun _ => lt_of_mem_values] at isValues
      cases isValues
      have unread := (decodeValues?_eq_none_iff (values bytes)).mpr (.inr spare)
      rw [decodeValues?_values] at unread
      cases unread

private theorem exists_of_mapM_value?_none {symbols : List Char}
    (unread : symbols.mapM value? = none) : ∃ c ∈ symbols, value? c = none := by
  induction symbols with
  | nil => cases unread
  | cons c rest induction =>
      cases isValue : value? c with
      | none => exact ⟨c, List.mem_cons_self, isValue⟩
      | some value =>
          have later : rest.mapM value? = none := by
            rw [List.mapM_cons, isValue] at unread
            cases others : rest.mapM value? with
            | none => rfl
            | some values => simp [others] at unread
          obtain ⟨other, member, none⟩ := induction later
          exact ⟨other, List.mem_cons_of_mem _ member, none⟩

private theorem value?_of_isSymbol {c : Char} (isSymbol : IsSymbol c) (isNotPad : c ≠ pad) :
    value? c ≠ none := by
  cases isSymbol with
  | pad => exact absurd rfl isNotPad
  | symbol value =>
      by_cases inAlphabet : value < 64
      · simp [value?_symbol inAlphabet]
      · rw [symbol_of_le (Nat.le_of_not_lt inAlphabet)]
        decide

private theorem malformed_of_foreign {text symbols : List Char} (clean : pad ∉ symbols)
    (within : symbols ⊆ text) (unread : symbols.mapM value? = none) : Malformed text := by
  obtain ⟨c, member, none⟩ := exists_of_mapM_value?_none unread
  apply Malformed.foreign (within member)
  intro isSymbol
  apply value?_of_isSymbol isSymbol _ none
  rintro rfl
  exact clean member

private theorem exists_inside {rest : List Char} {c : Char} (member : c ∈ rest)
    (symbol : c ≠ pad) :
    ∃ left other right, pad :: rest = left ++ pad :: other :: right ∧ other ≠ pad := by
  induction rest with
  | nil => cases member
  | cons first rest induction =>
      by_cases isPad : first = pad
      · have later : c ∈ rest := by
          rcases List.mem_cons.mp member with rfl | later
          · exact absurd isPad symbol
          · exact later
        obtain ⟨left, other, right, whole, isSymbol⟩ := induction later
        refine ⟨pad :: left, other, right, ?_, isSymbol⟩
        rw [isPad, whole, List.cons_append]
      · exact ⟨[], first, rest, rfl, isPad⟩

/-- A text that is not read is malformed. -/
theorem malformed_of_decode? {text : List Char} (unread : decode? text = none) :
    Malformed text := by
  let symbols := text.takeWhile (· ≠ pad)
  let tail := text.dropWhile (· ≠ pad)
  have whole : text = symbols ++ tail := List.takeWhile_append_dropWhile.symm
  have clean : pad ∉ symbols := by
    intro member
    have solid := List.all_eq_true.mp List.all_takeWhile pad member
    simp at solid
  by_cases pads : ∀ c ∈ tail, c = pad
  · have isText : text = symbols ++ List.replicate tail.length pad := by
      rw [← List.eq_replicate_of_mem pads, ← whole]
    by_cases much : padding symbols.length < tail.length
    · exact .padded clean isText much
    · have atMost : tail.all (· = pad) && tail.length ≤ padding symbols.length := by
        simpa using ⟨pads, Nat.le_of_not_lt much⟩
      have read : decode? text = (symbols.mapM value?).bind decodeValues? := if_pos atMost
      rw [read, Option.bind_eq_none_iff] at unread
      cases isValues : symbols.mapM value? with
      | none =>
          apply malformed_of_foreign clean _ isValues
          rw [whole]
          exact List.subset_append_left symbols tail
      | some given =>
          rcases (decodeValues?_eq_none_iff given).mp (unread given isValues) with one | spare
          · have length : symbols.length = given.length := by
              rw [← (symbols_of_mapM_value? isValues).1, List.length_map]
            exact .lone clean isText (length ▸ one)
          · exact .spare clean isText isValues spare
  · obtain ⟨c, isOther⟩ := Classical.not_forall.mp pads
    obtain ⟨member, symbol⟩ := Classical.not_imp.mp isOther
    cases isTail : tail with
    | nil => simp [isTail] at member
    | cons first rest =>
        have isPad : first = pad := by
          have begins := List.head?_dropWhile_not (· ≠ pad) text
          rw [show text.dropWhile (· ≠ pad) = first :: rest from isTail] at begins
          simpa using begins
        have later : c ∈ rest := by
          rw [isTail, isPad] at member
          exact (List.mem_cons.mp member).resolve_left symbol
        obtain ⟨left, other, right, inside, isSymbol⟩ := exists_inside later symbol
        have isText : text = (symbols ++ left) ++ pad :: other :: right := by
          rw [List.append_assoc, ← inside, ← isPad, ← isTail, ← whole]
        exact .inside isText isSymbol

/-- A text is malformed, or it spells bytes. -/
theorem malformed_iff (text : List Char) : Malformed text ↔ ¬ ∃ bytes, Spells text bytes := by
  have unread : decode? text = none ↔ ¬ ∃ bytes, Spells text bytes := by
    simp only [Option.eq_none_iff_forall_ne_some, ← decode?_eq_some_iff, not_exists, ne_eq]
  rw [← unread]
  exact ⟨Malformed.decode?_eq_none, malformed_of_decode?⟩

end Base64

end RemoteInput
