import RemoteInput.Proofs.Text.Words
import RemoteInput.Request

/-!
# Request lines and their words

A request line is known from its words: the first is the keyword and the others
are those of the arguments.  The blanks between them do not count, nor does the
letter case of the keyword.
-/

namespace RemoteInput

namespace Verb

theorem keyword_ofKeyword (keyword : String) : (ofKeyword keyword).keyword = keyword := by
  unfold ofKeyword
  cases found : known.find? (·.keyword = keyword) with
  | none => rfl
  | some verb => simpa using List.find?_some found

/-- Only three keywords do without input. -/
theorem requiresInput_ofKeyword (keyword : String) :
    (ofKeyword keyword).requiresInput = false ↔
      keyword ∈ ["PING", "CLIP_GET", "CLIP_SET"] := by
  constructor
  · intro free
    rw [← keyword_ofKeyword keyword]
    cases verb : ofKeyword keyword with
    | ping => decide
    | clipGet => decide
    | clipSet => decide
    | _ => simp [verb, requiresInput] at free
  · intro member
    simp only [List.mem_cons, List.not_mem_nil, or_false] at member
    rcases member with rfl | rfl | rfl
    · decide
    · decide
    · decide

end Verb

namespace Request

/-- What a request line without a word is, and what one with words is. -/
theorem ofLine_cases (line : String) :
    Text.words line.toList = [] ∧ ofLine line = .error .emptyCommand ∨
      ∃ keyword arguments,
        Text.words line.toList = keyword :: Text.words arguments.toList ∧
        ofLine line =
          .ok { verb := .ofKeyword (String.ofList (Text.upper keyword)), arguments } := by
  by_cases empty : Text.trim line.toList = []
  · left
    constructor
    · rw [← Text.words_trim, empty, Text.words_nil]
    · simp [ofLine, empty]
  · right
    let parts := Text.cutAtBlank (Text.trim line.toList)
    refine ⟨parts.1, String.ofList (Text.trim parts.2), ?_, ?_⟩
    · rw [Text.words_of_cut empty, String.toList_ofList, Text.words_trim]
    · simp [ofLine, parts]

theorem ofLine_of_words {line : String} {keyword : List Char} {rest : List (List Char)}
    (words : Text.words line.toList = keyword :: rest) :
    ∃ arguments, Text.words arguments.toList = rest ∧
      ofLine line =
        .ok { verb := .ofKeyword (String.ofList (Text.upper keyword)), arguments } := by
  rcases ofLine_cases line with ⟨empty, _⟩ | ⟨first, arguments, same, found⟩
  · rw [words] at empty
    cases empty
  · rw [words] at same
    cases same
    exact ⟨arguments, rfl, found⟩

/-- The arguments of a request are trimmed. -/
theorem trim_arguments {line : String} {request : Request} (read : ofLine line = .ok request) :
    Text.trim request.arguments.toList = request.arguments.toList := by
  unfold ofLine at read
  split at read
  · cases read
  · simp only [Except.ok.injEq] at read
    rw [← read, String.toList_ofList, Text.trim_trim]

/-- A keyword and trimmed arguments are read back from the line that they make. -/
theorem ofLine_of_parts {keyword : List Char} (solid : Text.Solid keyword) {arguments : String}
    (trimmed : Text.trim arguments.toList = arguments.toList) :
    ofLine (String.ofList keyword ++ " " ++ arguments) =
      .ok { verb := .ofKeyword (String.ofList (Text.upper keyword)), arguments } := by
  have letters : (String.ofList keyword ++ " " ++ arguments).toList =
      keyword ++ ' ' :: arguments.toList := by
    simp
  have space : Text.isBlank ' ' = true := by decide
  obtain ⟨rest, cut, isRest⟩ := Text.cutAtBlank_trim solid trimmed space
  unfold ofLine
  rw [letters]
  split
  · next empty =>
    rw [empty] at cut
    exact absurd (congrArg Prod.fst cut).symm solid.nonempty
  · simp [cut, isRest]

/-- A keyword and one argument, if it is not empty, are read back from the line
that they make. -/
theorem ofLine_of_argument {keyword argument : String} (nonempty : keyword ≠ "")
    (solidKeyword : ∀ c ∈ keyword.toList, Text.isBlank c = false)
    (solid : ∀ c ∈ argument.toList, Text.isBlank c = false) :
    ofLine (keyword ++ " " ++ argument) =
      .ok
        { verb := .ofKeyword (String.ofList (Text.upper keyword.toList))
          arguments := argument } := by
  have word : Text.Solid keyword.toList := ⟨by simpa using nonempty, solidKeyword⟩
  simpa using ofLine_of_parts word (Text.trim_of_solid solid)

/-- The first word of a request line, in upper case. -/
def keyword? (line : String) : Option String :=
  (Text.words line.toList).head?.map fun word => String.ofList (Text.upper word)

theorem ofLine_of_keyword? {line keyword : String} (found : keyword? line = some keyword) :
    ∃ arguments, ofLine line = .ok { verb := .ofKeyword keyword, arguments } := by
  unfold keyword? at found
  cases words : Text.words line.toList with
  | nil => simp [words] at found
  | cons word rest =>
      obtain ⟨arguments, _, read⟩ := ofLine_of_words words
      simp only [words, List.head?_cons, Option.map_some, Option.some.injEq] at found
      exact ⟨arguments, found ▸ read⟩

theorem ofLine_of_keyword?_none {line : String} (blank : keyword? line = none) :
    ofLine line = .error .emptyCommand := by
  rcases ofLine_cases line with ⟨_, read⟩ | ⟨keyword, arguments, words, _⟩
  · exact read
  · simp [keyword?, words] at blank

end Request

end RemoteInput
