import RemoteInput.Proofs.Request
import RemoteInput.Proofs.Request.Payload
import RemoteInput.Proofs.Stream.Framing
import RemoteInput.Proofs.Stream.Writing

/-!
# Texts on their way to a console

A request for a text carries its payload, which is one word without a line
break, whatever the text.  So the line of the request is sent, received and taken
apart without a loss, and the text is read back: `payload_survives`.
-/

namespace RemoteInput

/-- Lines without a line break are received one by one, before what follows. -/
theorem framing_wires {limit : Nat} {lines : List String}
    (unbroken : ∀ line ∈ lines, Unbroken line)
    (short : ∀ line ∈ lines, line.utf8ByteSize ≤ limit) (rest : List UInt8) :
    framing limit (lines.flatMap LineWriter.wire ++ rest) =
      lines.map .line ++ framing limit rest := by
  induction lines with
  | nil => rfl
  | cons line later induction =>
      have wired : (line :: later).flatMap LineWriter.wire ++ rest =
          Utf8.encode line.toList ++
            lineFeed :: (later.flatMap LineWriter.wire ++ rest) := by
        simp [LineWriter.wire, lineFeed]
      rw [wired, framing_text]
      · rw [induction, List.map_cons, List.cons_append]
        · intro one member
          exact unbroken one (List.mem_cons_of_mem _ member)
        · intro one member
          exact short one (List.mem_cons_of_mem _ member)
      · exact unbroken line List.mem_cons_self
      · exact short line List.mem_cons_self

private theorem unbroken_of_solid {text : String}
    (solid : ∀ c ∈ text.toList, Text.isBlank c = false) : Unbroken text := by
  intro c member
  have letter := solid c member
  constructor
  · rintro rfl
    cases letter
  · rintro rfl
    cases letter

private theorem solid_of_all {text : List Char}
    (solid : text.all (fun c => !Text.isBlank c) = true) :
    ∀ c ∈ text, Text.isBlank c = false := by
  intro c member
  rw [← Bool.not_eq_true']
  exact List.all_eq_true.mp solid c member

private theorem unbroken_space : Unbroken " " := by
  intro c member
  have isSpace : c = ' ' := List.mem_singleton.mp member
  subst isSpace
  exact ⟨by decide, by decide⟩

private theorem unbroken_append {left right : String}
    (first : Unbroken left) (second : Unbroken right) : Unbroken (left ++ right) := by
  intro c member
  rw [String.toList_append, List.mem_append] at member
  rcases member with isLeft | isRight
  · exact first c isLeft
  · exact second c isRight

namespace Verb

private theorem solid_keyword {verb : Verb} (carries : verb = .text ∨ verb = .clipSet) :
    ∀ c ∈ verb.keyword.toList, Text.isBlank c = false := by
  rcases carries with rfl | rfl
  · exact solid_of_all (by decide)
  · exact solid_of_all (by decide)

private theorem ofKeyword_keyword {verb : Verb}
    (carries : verb = .text ∨ verb = .clipSet) :
    ofKeyword verb.keyword = verb := by
  rcases carries with rfl | rfl
  · rfl
  · rfl

end Verb

namespace Request

/-- The line that asks for a text: a keyword and the payload of the text. -/
def textLine (keyword text : String) : String :=
  keyword ++ " " ++ Payload.encode text

/-- Every text survives the way to a console.  The line that carries it has no
line break.  It goes out whole, and wherever it stands in a stream, and in whatever
parts the stream arrives, it is received as it was sent.  The request has the
payload for its arguments, and the text is read back from it. -/
theorem payload_survives (text keyword : String) (verb : Verb)
    (carries : verb = .text ∨ verb = .clipSet)
    (spelled : Text.upper keyword.toList = verb.keyword.toList) :
    let line := textLine keyword text
    Unbroken line ∧
    (∀ writer : LineWriter, writer.unsent = [] → writer.sink.Reliable →
      ∃ after, writer.send line = (.ok (), after) ∧
        after.taken.toList = writer.taken.toList ++ LineWriter.wire line) ∧
    (∀ (limit : Nat) (earlier : List String) (rest : List UInt8)
        (parts : List (List UInt8)) (moment : Moment),
      line.utf8ByteSize ≤ limit →
      (∀ other ∈ earlier, Unbroken other ∧ other.utf8ByteSize ≤ limit) →
      (∀ part ∈ parts, part ≠ []) →
      parts.flatten = earlier.flatMap LineWriter.wire ++ LineWriter.wire line ++ rest →
      (LineReader.start limit (parts.map .bytes)).receipts moment =
        earlier.map .line ++ .line line :: framing limit rest) ∧
    ofLine line = .ok { verb, arguments := Payload.encode text } ∧
    Payload.decode (Payload.encode text) = .ok text := by
  intro line
  have solidVerb := Verb.solid_keyword carries
  have solidKeyword : ∀ c ∈ keyword.toList, Text.isBlank c = false := by
    apply Text.solid_of_upper
    rw [spelled]
    exact solidVerb
  have solid := Payload.solid_encode text
  have unbroken : Unbroken line := by
    apply unbroken_append
    · exact unbroken_append (unbroken_of_solid solidKeyword) unbroken_space
    · exact unbroken_of_solid solid
  refine ⟨unbroken, ?_, ?_, ?_, Payload.decode_encode text⟩
  · intro writer settled reliable
    have sent : writer.send line = (.ok (), (writer.send line).2) := by
      rw [← LineWriter.send_eq_ok settled reliable line]
    exact ⟨_, sent, (LineWriter.taken_of_send_ok settled sent).2⟩
  · intro limit earlier rest parts moment short others nonempty whole
    have wires : parts.flatten = (earlier ++ [line]).flatMap LineWriter.wire ++ rest := by
      simpa using whole
    rw [LineReader.receipts_eq_framing limit nonempty moment, wires, framing_wires]
    · simp
    · intro other member
      rcases List.mem_append.mp member with isEarlier | isLine
      · exact (others other isEarlier).1
      · rw [List.mem_singleton.mp isLine]
        exact unbroken
    · intro other member
      rcases List.mem_append.mp member with isEarlier | isLine
      · exact (others other isEarlier).2
      · rw [List.mem_singleton.mp isLine]
        exact short
  · have nonempty : keyword ≠ "" := by
      rintro rfl
      rcases carries with rfl | rfl
      · cases spelled
      · cases spelled
    have name : Verb.ofKeyword (String.ofList (Text.upper keyword.toList)) = verb := by
      rw [spelled, String.ofList_toList, Verb.ofKeyword_keyword carries]
    rw [← name]
    exact ofLine_of_argument nonempty solidKeyword solid

theorem payload_survives_of_line_breaks :
    let text := "a\r\nb\x00"
    let line := textLine "Clip_Set" text
    let dribbling : Sink :=
      { write := fun _ => .takes 1, flush := fun _ => none, shutdown := fun _ => none }
    let bytes := LineWriter.wire "PING" ++ LineWriter.wire line
    line = "Clip_Set YQ0KYgA=" ∧
    ((LineWriter.start dribbling).send line).2.taken.toList = LineWriter.wire line ∧
    (LineReader.start 17 ([bytes.take 8, bytes.drop 8].map .bytes)).receipts .start =
      [.line "PING", .line line, .endOfStream] ∧
    ofLine line = .ok { verb := .clipSet, arguments := "YQ0KYgA=" } ∧
    Payload.decode "YQ0KYgA=" = .ok text := by
  intro text line dribbling bytes
  have payload : Payload.encode text = "YQ0KYgA=" := by decide +kernel
  have isLine : line = "Clip_Set YQ0KYgA=" := by decide +kernel
  have spelled : Text.upper "Clip_Set".toList = Verb.clipSet.keyword.toList := by
    decide +kernel
  obtain ⟨_, sends, receives, taken, read⟩ :=
    payload_survives text "Clip_Set" .clipSet (.inr rfl) spelled
  have reliable : dribbling.Reliable := ⟨fun _ => ⟨0, rfl⟩, fun _ => rfl⟩
  have ping : ∀ other ∈ ["PING"], Unbroken other ∧ other.utf8ByteSize ≤ 17 := by
    intro other member
    rw [List.mem_singleton.mp member]
    exact ⟨unbroken_of_solid (solid_of_all (by decide)), by decide⟩
  have short : line.utf8ByteSize ≤ 17 := by
    rw [isLine]
    decide
  have nonempty : ∀ part ∈ [bytes.take 8, bytes.drop 8], part ≠ [] := by
    decide +kernel
  have whole : [bytes.take 8, bytes.drop 8].flatten =
      ["PING"].flatMap LineWriter.wire ++ LineWriter.wire line ++ [] := by
    simp [bytes]
  have received := receives 17 ["PING"] [] _ .start short ping nonempty whole
  obtain ⟨after, sent, delivered⟩ := sends (.start dribbling) rfl reliable
  refine ⟨isLine, ?_, ?_, ?_, ?_⟩
  · rw [sent, delivered]
    exact List.nil_append _
  · rw [received, framing_nil]
    rfl
  · rw [taken, payload]
  · rw [← payload, read]

end Request

end RemoteInput
