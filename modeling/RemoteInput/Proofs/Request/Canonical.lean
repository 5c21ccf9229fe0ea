import RemoteInput.Proofs.Request

/-!
# Canonical request lines

A request is written as its keyword, one space and its arguments.  Whatever line it was
read from, it is read again from that one.
-/

namespace RemoteInput

namespace Text

private theorem isLower_iff {c : Char} :
    c.isLower = true ↔ 'a'.val ≤ c.val ∧ c.val ≤ 'z'.val :=
  Bool.and_eq_true_iff.trans (and_congr decide_eq_true_iff decide_eq_true_iff)

private theorem toUpper_of_not_isLower {c : Char} (notLower : c.isLower = false) :
    c.toUpper = c := by
  apply dif_neg
  intro isLower
  have lower := isLower_iff.mpr isLower
  rw [notLower] at lower
  cases lower

/-- A small letter becomes a capital, and any other character stays what it is. -/
private theorem toUpper_cases (c : Char) :
    (c.isLower = false ∧ c.toUpper = c) ∨
      (0x41 ≤ c.toUpper.toNat ∧ c.toUpper.toNat ≤ 0x5A) := by
  cases isLower : c.isLower with
  | false => exact .inl ⟨rfl, toUpper_of_not_isLower isLower⟩
  | true =>
      right
      obtain ⟨low, high⟩ := isLower_iff.mp isLower
      have above : 0x61 ≤ c.val.toNat := UInt32.le_iff_toNat_le.mp low
      have below : c.val.toNat ≤ 0x7A := UInt32.le_iff_toNat_le.mp high
      have capital : c.toUpper.toNat = (c.val.toNat + ('A'.val - 'a'.val).toNat) % 2 ^ 32 :=
        (congrArg Char.toNat (dif_pos ⟨low, high⟩)).trans (UInt32.toNat_add _ _)
      have shift : ('A'.val - 'a'.val).toNat = 2 ^ 32 - 0x20 := by decide
      rw [shift] at capital
      omega

theorem isLower_toUpper (c : Char) : c.toUpper.isLower = false := by
  rcases toUpper_cases c with ⟨notLower, same⟩ | ⟨_, atMost⟩
  · rwa [same]
  · apply Bool.eq_false_iff.mpr
    intro isLower
    have atLeast : 0x61 ≤ c.toUpper.toNat :=
      UInt32.le_iff_toNat_le.mp (isLower_iff.mp isLower).1
    omega

theorem isBlank_toUpper {c : Char} (letter : isBlank c = false) : isBlank c.toUpper = false := by
  rcases toUpper_cases c with ⟨_, same⟩ | ⟨atLeast, atMost⟩
  · rwa [same]
  · exact isBlank_of_graphic (by omega)

theorem Solid.upper {word : List Char} (solid : Solid word) : Solid (upper word) := by
  constructor
  · simpa [Text.upper] using solid.nonempty
  · intro c member
    obtain ⟨letter, inWord, rfl⟩ := List.mem_map.mp member
    exact isBlank_toUpper (solid.solid letter inWord)

theorem upper_upper (text : List Char) : upper (upper text) = upper text := by
  unfold upper
  rw [List.map_map]
  apply List.map_congr_left
  intro c _
  exact toUpper_of_not_isLower (isLower_toUpper c)

end Text

namespace Verb

/-- The keywords of the protocol. -/
def keywords : List String :=
  ["PING", "CLIP_GET", "CLIP_SET", "TAP", "SWIPE", "DRAG", "KEYCODE", "TEXT"]

theorem not_mem_keywords_of_unknown {keyword other : String}
    (isUnknown : ofKeyword keyword = .unknown other) : other ∉ keywords := by
  have known : ∀ keyword ∈ keywords, (ofKeyword keyword).isUnknown = false := by
    decide +kernel
  have same : other = keyword := by
    simpa [isUnknown, Verb.keyword] using keyword_ofKeyword keyword
  intro member
  have isKnown := known other member
  rw [same, isUnknown] at isKnown
  cases isKnown

end Verb

namespace Request

/-- The line that writes a request. -/
def canonicalLine (request : Request) : String :=
  request.verb.keyword ++ " " ++ request.arguments

/-- The verb of a request is that of its first word. -/
theorem verb_of_ofLine {line : String} {request : Request} (read : ofLine line = .ok request) :
    ∃ word, Text.Solid word ∧ request.verb = .ofKeyword (String.ofList (Text.upper word)) := by
  unfold ofLine at read
  split at read
  · cases read
  · next nonempty =>
    have solid := Text.solid_cutAtBlank nonempty
    generalize Text.cutAtBlank (Text.trim line.toList) = parts at read solid
    obtain ⟨word, rest⟩ := parts
    simp only [Except.ok.injEq] at read
    exact ⟨word, solid, by simp [← read]⟩

/-- A request that was read has a keyword in capitals and trimmed arguments, and is read
back from the line that they make.  Its verb is that of its keyword, and is known if that is
a keyword of the protocol. -/
theorem requests_have_canonical_lines {line : String} {request : Request}
    (read : ofLine line = .ok request) :
    Text.Solid request.verb.keyword.toList ∧
      (∀ c ∈ request.verb.keyword.toList, c.isLower = false) ∧
      (∀ c ∈ request.arguments.toList.head?, Text.isBlank c = false) ∧
      (∀ c ∈ request.arguments.toList.getLast?, Text.isBlank c = false) ∧
      ofLine request.canonicalLine = .ok request ∧
      Verb.ofKeyword request.verb.keyword = request.verb ∧
      ∀ keyword, request.verb = .unknown keyword → keyword ∉ Verb.keywords := by
  obtain ⟨word, solid, isVerb⟩ := verb_of_ofLine read
  have trimmed := trim_arguments read
  obtain ⟨begins, ends⟩ := Text.trim_eq_self_iff.mp trimmed
  have keyword : request.verb.keyword = String.ofList (Text.upper word) := by
    rw [isVerb, Verb.keyword_ofKeyword]
  have sameVerb : Verb.ofKeyword request.verb.keyword = request.verb := by
    rw [keyword, isVerb]
  refine ⟨?_, ?_, begins, ends, ?_, sameVerb, ?_⟩
  · simpa [keyword] using solid.upper
  · intro c member
    simp only [keyword, String.toList_ofList] at member
    obtain ⟨letter, _, rfl⟩ := List.mem_map.mp member
    exact Text.isLower_toUpper letter
  · have again := ofLine_of_parts solid.upper trimmed
    rw [Text.upper_upper, ← keyword, sameVerb] at again
    exact again
  · intro other isUnknown
    exact Verb.not_mem_keywords_of_unknown (isVerb.symm.trans isUnknown)

/-- Between and around the words are blanks of several kinds, and not all letters have capitals. -/
theorem requests_have_canonical_lines_of_unknown_verb :
    let request : Request := { verb := .unknown "PIñ-ß", arguments := "1\u00A0 2" }
    ofLine "\u3000piñ-ß\u2028\t1\u00A0 2 \r" = .ok request ∧
      ofLine "PIñ-ß 1\u00A0 2" = .ok request ∧ "PIñ-ß" ∉ Verb.keywords := by
  intro request
  have read : ofLine "\u3000piñ-ß\u2028\t1\u00A0 2 \r" = .ok request := by decide +kernel
  obtain ⟨_, _, _, _, again, _, isOther⟩ := requests_have_canonical_lines read
  have isLine : request.canonicalLine = "PIñ-ß 1\u00A0 2" := by decide +kernel
  rw [isLine] at again
  exact ⟨read, again, isOther _ rfl⟩

end Request

end RemoteInput
