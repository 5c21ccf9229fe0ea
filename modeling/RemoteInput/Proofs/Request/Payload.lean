import RemoteInput.Proofs.Text.Base64
import RemoteInput.Proofs.Text.Base64.Malformed
import RemoteInput.Proofs.Text.Utf8
import RemoteInput.Proofs.Text.Words
import RemoteInput.Request.Payload

/-!
# Payloads

The payload of a text is one word, and the text is read back from it.  What is
read from a payload depends on its words alone: a payload of two words or more
has a blank inside, and no blank is a symbol.  `decode_accepts_spellings` says which
payloads are read at all, and as what.
-/

namespace RemoteInput

namespace Payload

/-! ## Reading -/

private theorem malformed_of_blank {text : List Char} {c : Char}
    (blank : Text.isBlank c = true) (member : c ∈ text) : Base64.Malformed text := by
  apply Base64.Malformed.foreign member
  intro isSymbol
  rw [Text.isBlank_of_graphic isSymbol.isGraphic] at blank
  cases blank

private theorem decode_of_blank {payload : String} {c : Char}
    (blank : Text.isBlank c = true) (member : c ∈ Text.trim payload.toList) :
    decode payload = .error .invalidBase64 := by
  unfold decode
  rw [(malformed_of_blank blank member).decode?_eq_none]

/-- More words than one are no payload. -/
theorem decode_of_two_words {payload : String}
    (several : 2 ≤ (Text.words payload.toList).length) :
    decode payload = .error .invalidBase64 := by
  rcases Text.trim_cases payload.toList with ⟨one, _⟩ | ⟨_, c, member, blank⟩
  · omega
  · exact decode_of_blank blank member

/-- Payloads of the same words are read alike. -/
theorem decode_of_words {payload other : String}
    (same : Text.words payload.toList = Text.words other.toList) :
    decode payload = decode other := by
  by_cases several : 2 ≤ (Text.words payload.toList).length
  · rw [decode_of_two_words several, decode_of_two_words (same ▸ several)]
  · rcases Text.trim_cases payload.toList with ⟨_, trimmed⟩ | ⟨two, _⟩
    · rcases Text.trim_cases other.toList with ⟨_, isToo⟩ | ⟨two, _⟩
      · simp [decode, trimmed, isToo, same]
      · exact absurd (same ▸ two) several
    · exact absurd two several

/-! ## Writing -/

theorem solid_encode (text : String) :
    ∀ c ∈ (encode text).toList, Text.isBlank c = false := by
  intro c member
  rw [encode, String.toList_ofList] at member
  exact Text.isBlank_of_graphic (Base64.isSymbol_of_mem member).isGraphic

/-- A text is read back from its payload. -/
theorem decode_encode (text : String) : decode (encode text) = .ok text := by
  have trimmed := Text.trim_of_solid (solid_encode text)
  simp only [decode, trimmed]
  simp [encode, Base64.decode?_encode, Utf8.decodeLossy_encode]

theorem encode_eq_empty_iff {text : String} : encode text = "" ↔ text = "" := by
  have nothing : encode "" = "" := by decide
  constructor
  · intro empty
    have read := decode_encode text
    rw [empty, ← nothing, decode_encode] at read
    cases read
    rfl
  · intro empty
    rw [empty, nothing]

/-! ## What is accepted -/

private theorem decode_eq_ok_iff {payload text : String} :
    decode payload = .ok text ↔ ∃ bytes, Base64.Spells (Text.trim payload.toList) bytes ∧
      text = String.ofList (Utf8.decodeLossy bytes) := by
  simp only [← Base64.decode?_eq_some_iff, decode]
  cases Base64.decode? (Text.trim payload.toList) with
  | none => simp
  | some bytes => simp [eq_comm]

private theorem decode_eq_error_iff {payload : String} {refusal : Refusal} :
    decode payload = .error refusal ↔ refusal = .invalidBase64 ∧
      ¬ ∃ bytes, Base64.Spells (Text.trim payload.toList) bytes := by
  simp only [← Base64.decode?_eq_some_iff, decode]
  cases Base64.decode? (Text.trim payload.toList) with
  | none => simp [eq_comm]
  | some bytes => simp

/-- Where the bytes of a payload are in UTF-8, they are the bytes of the text that is
read, and its own payload is the one given with its padding completed. -/
private theorem decode_of_utf8 {payload : String} {bytes : List UInt8} {text : List Char}
    (spells : Base64.Spells (Text.trim payload.toList) bytes)
    (valid : Utf8.decode? bytes = some text) :
    decode payload = .ok (String.ofList text) ∧
      (encode (String.ofList text)).toList = Text.trim payload.toList ++
        List.replicate (Base64.padding (Text.trim payload.toList).length) Base64.pad := by
  rw [Utf8.decode?_eq_some_iff] at valid
  subst valid
  constructor
  · rw [decode_eq_ok_iff]
    exact ⟨_, spells, by rw [Utf8.decodeLossy_encode]⟩
  · simpa [encode] using spells.encode_eq

/-- A payload is read if, without the blanks around it, it is the base64 of some
bytes with all of its padding or less, and of one list of bytes only; the text that is
read is theirs.  Any other payload has a fault and is refused, one with a blank
inside among them. -/
theorem decode_accepts_spellings (payload : String) :
    let trimmed := Text.trim payload.toList
    (∀ text, decode payload = .ok text ↔
      ∃ bytes, Base64.Spells trimmed bytes ∧ text = String.ofList (Utf8.decodeLossy bytes)) ∧
    (∀ bytes other, Base64.Spells trimmed bytes → Base64.Spells trimmed other →
      bytes = other) ∧
    (∀ bytes text, Base64.Spells trimmed bytes → Utf8.decode? bytes = some text →
      decode payload = .ok (String.ofList text) ∧
      (encode (String.ofList text)).toList =
        trimmed ++ List.replicate (Base64.padding trimmed.length) Base64.pad) ∧
    (∀ refusal, decode payload = .error refusal ↔
      refusal = .invalidBase64 ∧ ¬ ∃ bytes, Base64.Spells trimmed bytes) ∧
    (Base64.Malformed trimmed ↔ ¬ ∃ bytes, Base64.Spells trimmed bytes) ∧
    ∀ c ∈ trimmed, Text.isBlank c = true → Base64.Malformed trimmed := by
  intro trimmed
  refine ⟨fun _ => decode_eq_ok_iff, fun _ _ => Base64.Spells.unique, ?_,
    fun _ => decode_eq_error_iff, Base64.malformed_iff trimmed, ?_⟩
  · intro bytes text spells valid
    exact decode_of_utf8 spells valid
  · intro c member blank
    exact malformed_of_blank blank member

/-- The last symbol of a payload may have no bits left over. -/
example : decode "QR==" = .error .invalidBase64 := by decide

end Payload

end RemoteInput
