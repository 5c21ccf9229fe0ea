import RemoteInput.Proofs.Stream.Reading
import RemoteInput.Proofs.Text.Utf8

/-!
# The lines of a byte stream

`framing` cuts a whole stream at its line feeds and judges each piece by itself.
The reader never sees the whole stream: it decodes while it reads, with a
bounded look at the kept bytes and a memory of where the last look stopped.
`receipts_eq_framing` says that it hands out the same, in whatever parts the
bytes arrive.
-/

namespace RemoteInput

/-! ## Whole streams -/

/-- What a piece between two line feeds gives. -/
def pieceReceipt (limit : Nat) (piece : List UInt8) : Receipt :=
  if limit < piece.length then
    .failed (.lineTooLong limit)
  else
    match String.fromUTF8? (dropCarriageReturn piece).toByteArray with
    | some text => .line text
    | none => .failed .invalidUtf8

/-- An answer, and the later ones if it is a line. -/
def proceed (receipt : Receipt) (later : List Receipt) : List Receipt :=
  match receipt with
  | .line text => .line text :: later
  | receipt => [receipt]

/-- What the pieces of a stream give.  The last one has no line feed after it:
it is no line if it is empty or a single carriage return. -/
def pieceReceipts (limit : Nat) : List (List UInt8) → List Receipt
  | [] => [.endOfStream]
  | [remainder] =>
      if remainder.length ≤ limit ∧ (remainder = [] ∨ remainder = [carriageReturn]) then
        [.endOfStream]
      else
        proceed (pieceReceipt limit remainder) [.endOfStream]
  | piece :: next :: pieces =>
      proceed (pieceReceipt limit piece) (pieceReceipts limit (next :: pieces))

/-- What a stream gives, cut at its line feeds, up to the first answer that is
no line. -/
def framing (limit : Nat) (bytes : List UInt8) : List Receipt :=
  pieceReceipts limit (bytes.splitOn lineFeed)

theorem framing_lineFeed (limit : Nat) {piece : List UInt8} (rest : List UInt8)
    (clean : lineFeed ∉ piece) :
    framing limit (piece ++ lineFeed :: rest) =
      proceed (pieceReceipt limit piece) (framing limit rest) := by
  unfold framing
  rw [List.splitOn_append_cons_self_of_not_mem clean]
  cases pieces : rest.splitOn lineFeed with
  | nil => exact absurd pieces (List.splitOn_ne_nil _ _)
  | cons next pieces => rfl

theorem framing_remainder (limit : Nat) {remainder : List UInt8}
    (clean : lineFeed ∉ remainder) :
    framing limit remainder =
      if remainder.length ≤ limit ∧
          (remainder = [] ∨ remainder = [carriageReturn]) then
        [.endOfStream]
      else
        proceed (pieceReceipt limit remainder) [.endOfStream] := by
  unfold framing
  rw [List.splitOn_eq_singleton clean, pieceReceipts]

theorem framing_nil (limit : Nat) : framing limit [] = [.endOfStream] := by
  rw [framing_remainder limit List.not_mem_nil]
  simp

/-- A stream that begins with more bytes than a line may have. -/
theorem framing_tooLong {limit : Nat} {bytes : List UInt8}
    (long : limit < bytes.length) (clean : lineFeed ∉ bytes.take (limit + 1)) :
    framing limit bytes = [.failed (.lineTooLong limit)] := by
  by_cases member : lineFeed ∈ bytes
  · obtain ⟨piece, rest, rfl, pieceClean⟩ := List.eq_append_cons_of_mem member
    have longPiece : limit < piece.length := by
      apply Nat.lt_of_not_le
      intro short
      apply clean
      rw [List.take_append]
      apply List.mem_append_right
      have : limit + 1 - piece.length = (limit - piece.length) + 1 := by omega
      rw [this, List.take_succ_cons]
      exact List.mem_cons_self
    rw [framing_lineFeed limit rest pieceClean]
    simp [pieceReceipt, longPiece, proceed]
  · rw [framing_remainder limit member]
    have notShort : ¬ bytes.length ≤ limit := Nat.not_le_of_lt long
    simp [pieceReceipt, long, notShort, proceed]

/-! ## Texts in a stream -/

/-- A text without a line break. -/
def Unbroken (text : String) : Prop :=
  ∀ c ∈ text.toList, c ≠ '\r' ∧ c ≠ '\n'

instance (text : String) : Decidable (Unbroken text) :=
  List.decidableBAll (fun c => c ≠ '\r' ∧ c ≠ '\n') text.toList

theorem lineFeed_not_mem_encode {text : String} (unbroken : Unbroken text) :
    lineFeed ∉ Utf8.encode text.toList := by
  intro member
  exact (unbroken _ (Utf8.mem_of_mem_encode (by decide) member)).2 (by decide)

/-- How a peer ends its lines: with a line feed, or with a carriage return before
it. -/
inductive LineEnd where
  | lf
  | crLf
  deriving DecidableEq, Repr

namespace LineEnd

/-- What stands between a line and its line feed. -/
def mark : LineEnd → List UInt8
  | .lf => []
  | .crLf => [carriageReturn]

/-- The bytes of a line that is ended this way. -/
def wire (lineEnd : LineEnd) (line : String) : List UInt8 :=
  Utf8.encode line.toList ++ lineEnd.mark ++ [lineFeed]

/-- The bytes of a line, without its line feed, are no more than a limit. -/
def fits (lineEnd : LineEnd) (limit : Nat) (line : String) : Bool :=
  line.utf8ByteSize + lineEnd.mark.length ≤ limit

private theorem lineFeed_not_mem_piece {text : String} (unbroken : Unbroken text)
    (lineEnd : LineEnd) : lineFeed ∉ Utf8.encode text.toList ++ lineEnd.mark := by
  intro member
  rcases List.mem_append.mp member with inText | inMark
  · exact lineFeed_not_mem_encode unbroken inText
  · cases lineEnd with
    | lf => cases inMark
    | crLf => exact absurd (List.mem_singleton.mp inMark) (by decide)

private theorem dropCarriageReturn_piece {text : String} (unbroken : Unbroken text)
    (lineEnd : LineEnd) :
    dropCarriageReturn (Utf8.encode text.toList ++ lineEnd.mark) =
      Utf8.encode text.toList := by
  unfold dropCarriageReturn
  cases lineEnd with
  | lf =>
      rw [mark, List.append_nil, if_neg]
      intro isLast
      have member := List.mem_of_getLast? isLast
      exact (unbroken _ (Utf8.mem_of_mem_encode (by decide) member)).1 (by decide)
  | crLf => simp [mark]

/-- A text that is sent as a line is received as one, unless its bytes, the
carriage return among them, are more than a line may have. -/
theorem framing_wire {text : String} (unbroken : Unbroken text) (lineEnd : LineEnd)
    (limit : Nat) (rest : List UInt8) :
    framing limit (lineEnd.wire text ++ rest) =
      if lineEnd.fits limit text then
        .line text :: framing limit rest
      else
        [.failed (.lineTooLong limit)] := by
  have length : (Utf8.encode text.toList ++ lineEnd.mark).length =
      text.utf8ByteSize + lineEnd.mark.length := by
    rw [List.length_append, Utf8.length_encode, String.ofList_toList]
  unfold wire
  rw [List.append_assoc, List.singleton_append,
    framing_lineFeed limit rest (lineFeed_not_mem_piece unbroken lineEnd), pieceReceipt,
    length, dropCarriageReturn_piece unbroken]
  by_cases fits : text.utf8ByteSize + lineEnd.mark.length ≤ limit
  · have isFit : lineEnd.fits limit text = true := decide_eq_true fits
    rw [if_pos isFit, if_neg (Nat.not_lt.mpr fits), Utf8.fromUTF8?_toByteArray,
      Utf8.decode?_encode, Option.map_some, String.ofList_toList]
    rfl
  · have isLong : ¬ lineEnd.fits limit text = true := mt of_decide_eq_true fits
    rw [if_neg isLong, if_pos (Nat.lt_of_not_le fits)]
    rfl

end LineEnd

/-- A text that is sent as a line is received as one. -/
theorem framing_text {limit : Nat} {text : String} (unbroken : Unbroken text)
    (short : text.utf8ByteSize ≤ limit) (rest : List UInt8) :
    framing limit (Utf8.encode text.toList ++ lineFeed :: rest) =
      .line text :: framing limit rest := by
  have fits : LineEnd.lf.fits limit text = true := decide_eq_true short
  have wired := LineEnd.framing_wire unbroken .lf limit rest
  rw [if_pos fits] at wired
  rw [← wired]
  simp [LineEnd.wire, LineEnd.mark]

/-! ## Taking lines from kept bytes -/

namespace LineDecoder

/-- A decoder that is not dropping the rest of a line, and whose memory of the
last look is right. -/
structure Sound (decoder : LineDecoder) : Prop where
  keeping : decoder.discarding = false
  within : decoder.searched ≤ decoder.buffer.length
  clean : lineFeed ∉ decoder.buffer.take decoder.searched

theorem Sound.restart {decoder : LineDecoder} (sound : decoder.Sound)
    (rest : List UInt8) :
    Sound { decoder with buffer := rest, searched := 0 } :=
  ⟨sound.keeping, Nat.zero_le _, List.not_mem_nil⟩

theorem Sound.feed {decoder : LineDecoder} (sound : decoder.Sound)
    (bytes : List UInt8) : Sound (decoder.feed bytes) := by
  constructor
  · exact sound.keeping
  · unfold LineDecoder.feed
    rw [List.length_append]
    exact Nat.le_add_right_of_le sound.within
  · unfold LineDecoder.feed
    rw [List.take_append_of_le_length sound.within]
    exact sound.clean

private theorem next_eq_takeLine {decoder : LineDecoder} (sound : decoder.Sound) :
    decoder.next = decoder.takeLine := by
  simp [next, sound.keeping]

private theorem isOther_of_clean {piece : List UInt8} (clean : lineFeed ∉ piece) :
    ∀ byte ∈ piece, decide (byte ≠ lineFeed) = true := by
  intro byte member
  rw [decide_eq_true_eq]
  rintro rfl
  exact clean member

private theorem takeWhile_clean {piece : List UInt8} (clean : lineFeed ∉ piece) :
    piece.takeWhile (· ≠ lineFeed) = piece := by
  rw [← List.append_nil piece, List.takeWhile_append_of_pos (isOther_of_clean clean)]
  simp

private theorem takeWhile_lineFeed {piece : List UInt8} (rest : List UInt8)
    (clean : lineFeed ∉ piece) :
    (piece ++ lineFeed :: rest).takeWhile (· ≠ lineFeed) = piece := by
  rw [List.takeWhile_append_of_pos (isOther_of_clean clean)]
  simp

/-- The last look did not go beyond the first line feed. -/
private theorem Sound.searched_le {decoder : LineDecoder} {piece rest : List UInt8}
    (sound : decoder.Sound) (kept : decoder.buffer = piece ++ lineFeed :: rest) :
    decoder.searched ≤ piece.length := by
  apply Nat.le_of_not_lt
  intro beyond
  apply sound.clean
  rw [kept, List.take_append]
  apply List.mem_append_right
  have : decoder.searched - piece.length =
      (decoder.searched - piece.length - 1) + 1 := by omega
  rw [this, List.take_succ_cons]
  exact List.mem_cons_self

theorem next_of_line {decoder : LineDecoder} {piece rest : List UInt8}
    (sound : decoder.Sound) (kept : decoder.buffer = piece ++ lineFeed :: rest)
    (clean : lineFeed ∉ piece) (short : piece.length ≤ decoder.limit) :
    decoder.next =
      (.line (dropCarriageReturn piece),
        { decoder with buffer := rest, searched := 0 }) := by
  have searched := sound.searched_le kept
  have fresh : decoder.buffer.drop decoder.searched =
      piece.drop decoder.searched ++ lineFeed :: rest := by
    rw [kept, List.drop_append_of_le_length searched]
  have reach : decoder.limit + 1 - decoder.searched =
      (piece.drop decoder.searched).length + ((decoder.limit - piece.length) + 1) := by
    rw [List.length_drop]
    omega
  have window : (piece.drop decoder.searched ++ lineFeed :: rest).take
      (decoder.limit + 1 - decoder.searched) =
        piece.drop decoder.searched ++
          lineFeed :: rest.take (decoder.limit - piece.length) := by
    rw [reach, List.take_length_add_append, List.take_succ_cons]
  have cleanDrop : lineFeed ∉ piece.drop decoder.searched := by
    intro member
    exact clean (List.mem_of_mem_drop member)
  have line : decoder.buffer.take decoder.searched ++ piece.drop decoder.searched =
      piece := by
    rw [kept, List.take_append_of_le_length searched, List.take_append_drop]
  rw [next_eq_takeLine sound]
  unfold takeLine
  simp only [fresh, window, takeWhile_lineFeed _ cleanDrop, line]
  rw [if_pos (by simp), List.drop_length_add_append]
  rfl

/-- A clean look finds no line. -/
private theorem takeLine_of_clean {decoder : LineDecoder}
    (clean : lineFeed ∉ decoder.buffer.take (decoder.limit + 1)) :
    decoder.takeLine =
      if (decoder.buffer.drop decoder.limit).isEmpty then
        (.incomplete,
          { decoder with searched := min (decoder.limit + 1) decoder.buffer.length })
      else
        (.tooLong, { decoder with discarding := true }) := by
  have window : lineFeed ∉ (decoder.buffer.drop decoder.searched).take
      (decoder.limit + 1 - decoder.searched) := by
    intro member
    rw [← List.drop_take] at member
    exact clean (List.mem_of_mem_drop member)
  unfold takeLine
  simp only [takeWhile_clean window]
  rw [if_neg (Nat.lt_irrefl _)]

theorem next_of_tooLong {decoder : LineDecoder} (sound : decoder.Sound)
    (long : decoder.limit < decoder.buffer.length)
    (clean : lineFeed ∉ decoder.buffer.take (decoder.limit + 1)) :
    decoder.next = (.tooLong, { decoder with discarding := true }) := by
  rw [next_eq_takeLine sound, takeLine_of_clean clean, if_neg]
  rw [List.isEmpty_iff, List.drop_eq_nil_iff]
  exact Nat.not_le_of_lt long

theorem next_of_incomplete {decoder : LineDecoder} (sound : decoder.Sound)
    (short : decoder.buffer.length ≤ decoder.limit) (clean : lineFeed ∉ decoder.buffer) :
    decoder.next =
      (.incomplete, { decoder with searched := decoder.buffer.length }) := by
  have cleanTake : lineFeed ∉ decoder.buffer.take (decoder.limit + 1) := by
    intro member
    exact clean (List.mem_of_mem_take member)
  rw [next_eq_takeLine sound, takeLine_of_clean cleanTake, if_pos]
  · rw [Nat.min_eq_right (Nat.le_succ_of_le short)]
  · rw [List.isEmpty_iff, List.drop_eq_nil_iff]
    exact short

/-- Kept bytes begin with a line, or with more bytes than a line may have, or
are too few to tell. -/
theorem kept_cases (limit : Nat) (buffer : List UInt8) :
    (∃ piece rest, buffer = piece ++ lineFeed :: rest ∧ lineFeed ∉ piece ∧
      piece.length ≤ limit) ∨
    (limit < buffer.length ∧ lineFeed ∉ buffer.take (limit + 1)) ∨
    (buffer.length ≤ limit ∧ lineFeed ∉ buffer) := by
  by_cases member : lineFeed ∈ buffer
  · obtain ⟨piece, rest, rfl, clean⟩ := List.eq_append_cons_of_mem member
    by_cases short : piece.length ≤ limit
    · exact .inl ⟨piece, rest, rfl, clean, short⟩
    · right
      left
      have long : limit + 1 ≤ piece.length := by omega
      constructor
      · rw [List.length_append]
        omega
      · rw [List.take_append_of_le_length long]
        intro found
        exact clean (List.mem_of_mem_take found)
  · by_cases short : buffer.length ≤ limit
    · exact .inr (.inr ⟨short, member⟩)
    · right
      left
      constructor
      · exact Nat.lt_of_not_le short
      · intro found
        exact member (List.mem_of_mem_take found)

end LineDecoder

/-! ## Reading a stream in parts -/

namespace LineReader

/-- A reader that has handed out no error, and the parts in which the bytes
that it has not read will arrive. -/
structure Supplied (reader : LineReader) (parts : List (List UInt8)) : Prop where
  sound : reader.decoder.Sound
  working : reader.failed = false
  nonempty : ∀ part ∈ parts, part ≠ []
  source : reader.source = parts.map .bytes
  ended : reader.ended = true → parts = []

/-- A reader between two answers. -/
structure Ready (reader : LineReader) (parts : List (List UInt8)) : Prop
    extends Supplied reader parts where
  looks : reader.ended = true → reader.readable = true
  idle : reader.readable = false → reader.decoder.buffer = []

/-- The bytes that a supplied reader will turn into lines. -/
def pending (reader : LineReader) (parts : List (List UInt8)) : List UInt8 :=
  reader.decoder.buffer ++ parts.flatten

/-- An answer is the first one that the framing of some bytes gives, and the
reader afterwards is ready for the others. -/
def Answers (limit : Nat) (bytes : List UInt8) (answer : Receipt × LineReader) : Prop :=
  (∃ text parts, answer.1 = .line text ∧ Ready answer.2 parts ∧
    answer.2.decoder.limit = limit ∧
    framing limit bytes = .line text :: framing limit (answer.2.pending parts)) ∨
  ((∀ text, answer.1 ≠ .line text) ∧ framing limit bytes = [answer.1])

private theorem answers_other {limit : Nat} {bytes : List UInt8} {receipt : Receipt}
    {after : LineReader} (other : ∀ text, receipt ≠ .line text)
    (framed : framing limit bytes = [receipt]) :
    Answers limit bytes (receipt, after) :=
  .inr ⟨other, framed⟩

private theorem answers_handOut {reader : LineReader} {parts : List (List UInt8)}
    {piece bytes : List UInt8} (supplied : Supplied reader parts)
    (short : piece.length ≤ reader.decoder.limit)
    (framed : framing reader.decoder.limit bytes =
      proceed (pieceReceipt reader.decoder.limit piece)
        (framing reader.decoder.limit (reader.pending parts))) :
    Answers reader.decoder.limit bytes
      (reader.handOut (dropCarriageReturn piece)) := by
  unfold pieceReceipt at framed
  rw [if_neg (Nat.not_lt_of_le short), Utf8.fromUTF8?_toByteArray] at framed
  unfold handOut
  cases decoded : Utf8.decode? (dropCarriageReturn piece) with
  | some text =>
      rw [decoded] at framed
      left
      refine ⟨String.ofList text, parts, rfl, ?_, rfl, framed⟩
      exact
        { sound := supplied.sound
          working := supplied.working
          nonempty := supplied.nonempty
          source := supplied.source
          ended := supplied.ended
          looks := fun _ => rfl
          idle := nofun }
  | none =>
      rw [decoded] at framed
      exact answers_other nofun framed

/-- Kept bytes that hold a line or too many bytes give the first answer of all
bytes to come. -/
private theorem answers_next {reader : LineReader} {parts : List (List UInt8)}
    (supplied : Supplied reader parts) :
    (∃ answer,
      answer? { reader with decoder := reader.decoder.next.2 } reader.decoder.next.1 =
        some answer ∧
      Answers reader.decoder.limit (reader.pending parts) answer) ∨
    (reader.decoder.buffer.length ≤ reader.decoder.limit ∧
      lineFeed ∉ reader.decoder.buffer) := by
  rcases LineDecoder.kept_cases reader.decoder.limit reader.decoder.buffer with
    ⟨piece, rest, kept, clean, short⟩ | ⟨long, clean⟩ | quiet
  · left
    rw [LineDecoder.next_of_line supplied.sound kept clean short]
    let decoder : LineDecoder := { reader.decoder with buffer := rest, searched := 0 }
    have rested : Supplied { reader with decoder } parts :=
      { supplied with sound := supplied.sound.restart rest }
    refine ⟨_, rfl, ?_⟩
    apply answers_handOut rested short
    unfold pending
    rw [kept, List.append_assoc, List.cons_append]
    exact framing_lineFeed reader.decoder.limit _ clean
  · left
    rw [LineDecoder.next_of_tooLong supplied.sound long clean]
    refine ⟨_, rfl, answers_other nofun ?_⟩
    apply framing_tooLong
    · unfold pending
      rw [List.length_append]
      omega
    · unfold pending
      rwa [List.take_append_of_le_length long]
  · exact .inr quiet

private theorem answers_finish {reader : LineReader} (supplied : Supplied reader []) :
    Answers reader.decoder.limit reader.decoder.buffer reader.finish := by
  have atEnd : reader.pending [] = reader.decoder.buffer := by simp [pending]
  rcases answers_next supplied with ⟨answer, answered, agrees⟩ | ⟨short, clean⟩
  · have last : reader.decoder.last = reader.decoder.next := by
      unfold LineDecoder.last
      split
      · next found =>
        rw [found] at answered
        simp [answer?] at answered
      · rfl
    rw [atEnd] at agrees
    unfold finish
    rw [last]
    simp only [answered, Option.getD_some]
    exact agrees
  · have next := LineDecoder.next_of_incomplete supplied.sound short clean
    have framed := framing_remainder reader.decoder.limit clean
    unfold finish LineDecoder.last
    rw [next]
    dsimp only
    by_cases blank :
        reader.decoder.buffer = [] ∨ reader.decoder.buffer = [carriageReturn]
    · rw [if_pos ⟨short, blank⟩] at framed
      rw [if_pos blank]
      exact answers_other nofun framed
    · rw [if_neg (fun both => blank both.2)] at framed
      rw [if_neg blank]
      let decoder : LineDecoder := { reader.decoder with buffer := [], searched := 0 }
      have rested : Supplied { reader with decoder } [] :=
        { supplied with sound := supplied.sound.restart [] }
      apply answers_handOut rested short
      rw [framed]
      simp [pending, decoder, framing_nil]

private theorem take?_of_quiet {reader : LineReader} (sound : reader.decoder.Sound)
    (short : reader.decoder.buffer.length ≤ reader.decoder.limit)
    (clean : lineFeed ∉ reader.decoder.buffer) :
    reader.take? = none := by
  unfold take?
  rw [LineDecoder.next_of_incomplete sound short clean]
  rfl

private theorem supplied_exhaust {reader : LineReader} {parts : List (List UInt8)}
    (supplied : Supplied reader parts)
    (short : reader.decoder.buffer.length ≤ reader.decoder.limit)
    (clean : lineFeed ∉ reader.decoder.buffer) :
    Supplied reader.exhaust parts ∧
      reader.exhaust.decoder.buffer = reader.decoder.buffer ∧
      reader.exhaust.decoder.limit = reader.decoder.limit := by
  have next := LineDecoder.next_of_incomplete supplied.sound short clean
  unfold exhaust
  rw [next]
  refine ⟨?_, rfl, rfl⟩
  have looked : LineDecoder.Sound
      { reader.decoder with searched := reader.decoder.buffer.length } := by
    refine ⟨supplied.sound.keeping, Nat.le_refl _, ?_⟩
    intro member
    exact clean (List.mem_of_mem_take member)
  exact { supplied with sound := looked }

/-- What a read left is still to come, in parts. -/
private theorem leave_eq_map (left : List UInt8) (parts : List (List UInt8))
    (nonempty : ∀ part ∈ parts, part ≠ []) :
    ∃ rest : List (List UInt8), (∀ part ∈ rest, part ≠ []) ∧
      ReadEvent.leave left (parts.map .bytes) = rest.map .bytes ∧
      rest.flatten = left ++ parts.flatten := by
  cases left with
  | nil => exact ⟨parts, nonempty, rfl, rfl⟩
  | cons first more =>
      refine ⟨(first :: more) :: parts, ?_, rfl, rfl⟩
      intro part member
      rcases List.mem_cons.mp member with same | later
      · rw [same]
        exact List.cons_ne_nil _ _
      · exact nonempty part later

/-- A read keeps a byte at least, and no byte is lost. -/
private theorem fetch_part {reader : LineReader} {first : UInt8} {more : List UInt8}
    {parts : List (List UInt8)} (supplied : Supplied reader ((first :: more) :: parts))
    (deadline : Option Nat) (moment : Moment) :
    ∃ kept rest, Supplied kept rest ∧ kept.ended = false ∧
      kept.decoder.limit = reader.decoder.limit ∧
      kept.pending rest = reader.pending ((first :: more) :: parts) ∧
      rest.flatten.length < ((first :: more) :: parts).flatten.length ∧
      fetch deadline reader moment reader.source =
        match kept.take? with
        | some (receipt, after) => (receipt, after, moment)
        | none => fetch deadline kept.exhaust moment kept.source := by
  have later : ∀ part ∈ parts, part ≠ [] := by
    intro part member
    exact supplied.nonempty part (List.mem_cons_of_mem _ member)
  obtain ⟨rest, nonempty, left, flat⟩ :=
    leave_eq_map (more.drop (reader.makeRoom.storage.room - 1)) parts later
  refine ⟨reader.makeRoom.keep
    (first :: more.take (reader.makeRoom.storage.room - 1)) (rest.map .bytes),
    rest, ?_, rfl, rfl, ?_, ?_, ?_⟩
  · exact
      { sound := supplied.sound.feed _
        working := supplied.working
        nonempty := nonempty
        source := rfl
        ended := nofun }
  · have whole : more.take (reader.makeRoom.storage.room - 1) ++ rest.flatten =
        more ++ parts.flatten := by
      rw [flat, ← List.append_assoc, List.take_append_drop]
    simp [pending, keep, LineDecoder.feed, makeRoom] at whole ⊢
    exact whole
  · rw [flat, List.flatten_cons, List.length_append, List.length_append,
      List.length_drop, List.length_cons]
    omega
  · rw [supplied.source, List.map_cons, fetch]
    simp only [left]
    rfl

/-- A read that finds the end of the stream. -/
private theorem fetch_end {reader : LineReader} (supplied : Supplied reader [])
    (unended : reader.ended = false) (deadline : Option Nat) (moment : Moment) :
    ∃ answer, fetch deadline reader moment reader.source = (answer.1, answer.2, moment) ∧
      Answers reader.decoder.limit (reader.pending []) answer := by
  have finished : Supplied { reader.makeRoom with source := [], ended := true } [] :=
    { supplied with source := rfl, ended := fun _ => rfl }
  have agrees := answers_finish finished
  refine ⟨finish { reader.makeRoom with source := [], ended := true }, ?_, ?_⟩
  · rw [supplied.source, List.map_nil, fetch]
    simp [readEnd, makeRoom, unended]
  · unfold pending
    rw [List.flatten_nil, List.append_nil]
    exact agrees

private theorem answers_fetch {reader : LineReader} {parts : List (List UInt8)}
    (supplied : Supplied reader parts) (unended : reader.ended = false)
    (short : reader.decoder.buffer.length ≤ reader.decoder.limit)
    (clean : lineFeed ∉ reader.decoder.buffer) (deadline : Option Nat)
    (moment : Moment) :
    ∃ answer, fetch deadline reader moment reader.source =
        (answer.1, answer.2, moment) ∧
      Answers reader.decoder.limit (reader.pending parts) answer := by
  induction count : parts.flatten.length using Nat.strongRecOn
    generalizing reader parts with
  | ind count induction =>
      match parts, supplied, count with
      | [], supplied, _ =>
          exact fetch_end supplied unended deadline moment
      | [] :: parts, supplied, _ =>
          exact absurd rfl (supplied.nonempty [] List.mem_cons_self)
      | (first :: more) :: parts, supplied, count =>
          obtain ⟨kept, rest, keptSupplied, keptUnended, sameLimit, samePending,
            fewer, unfolded⟩ := fetch_part supplied deadline moment
          rw [unfolded, ← samePending, ← sameLimit]
          rcases answers_next keptSupplied with
            ⟨answer, answered, agrees⟩ | ⟨keptShort, keptClean⟩
          · have taken : kept.take? = some answer := answered
            rw [taken]
            exact ⟨answer, rfl, agrees⟩
          · rw [take?_of_quiet keptSupplied.sound keptShort keptClean]
            obtain ⟨exhausted, sameBuffer, exhaustLimit⟩ :=
              supplied_exhaust keptSupplied keptShort keptClean
            rw [count] at fewer
            have found := induction _ fewer exhausted keptUnended
              (by rw [sameBuffer, exhaustLimit]; exact keptShort)
              (by rw [sameBuffer]; exact keptClean) rfl
            unfold pending at found ⊢
            rw [exhaustLimit, sameBuffer] at found
            exact found

/-- A reader that is ready answers at once. -/
theorem receive_of_ready {reader : LineReader} {parts : List (List UInt8)}
    (ready : Ready reader parts) (deadline : Option Nat) (moment : Moment) :
    ∃ answer, reader.receive deadline moment = (answer.1, answer.2, moment) ∧
      Answers reader.decoder.limit (reader.pending parts) answer := by
  unfold receive
  rw [if_neg (by simp [ready.working])]
  by_cases readable : reader.readable = true
  · rw [if_pos readable]
    by_cases ended : reader.ended = true
    · rw [if_pos ended]
      have atEnd := ready.ended ended
      subst atEnd
      refine ⟨reader.finish, rfl, ?_⟩
      have agrees := answers_finish ready.toSupplied
      simpa [pending] using agrees
    · rw [if_neg ended]
      rcases answers_next ready.toSupplied with
        ⟨answer, answered, agrees⟩ | ⟨short, clean⟩
      · have taken : reader.take? = some answer := answered
        rw [taken]
        exact ⟨answer, rfl, agrees⟩
      · rw [take?_of_quiet ready.sound short clean]
        obtain ⟨exhausted, sameBuffer, sameLimit⟩ :=
          supplied_exhaust ready.toSupplied short clean
        have unended : reader.exhaust.ended = false := by
          rw [← Bool.not_eq_true]
          exact ended
        have found := answers_fetch exhausted unended
          (by rw [sameBuffer, sameLimit]; exact short)
          (by rw [sameBuffer]; exact clean) deadline moment
        unfold pending at found ⊢
        rw [sameLimit, sameBuffer] at found
        exact found
  · rw [if_neg readable]
    have empty := ready.idle (by simpa using readable)
    have unended : reader.ended = false := by
      rw [← Bool.not_eq_true]
      intro ended
      exact readable (ready.looks ended)
    apply answers_fetch ready.toSupplied unended
    · simp [empty]
    · simp [empty]

/-- A reader that is ready hands out the framing of the bytes to come. -/
theorem receipts_of_ready {reader : LineReader} {parts : List (List UInt8)}
    (ready : Ready reader parts) (moment : Moment) :
    reader.receipts moment =
      framing reader.decoder.limit (reader.pending parts) := by
  induction count : reader.remaining using Nat.strongRecOn
    generalizing reader parts moment with
  | ind count induction =>
      obtain ⟨answer, received, agrees⟩ := receive_of_ready ready none moment
      rcases agrees with ⟨text, rest, isLine, readyAfter, limit, framed⟩ |
        ⟨other, framed⟩
      · rw [isLine] at received
        have fewer := remaining_receive_lt received
        rw [count] at fewer
        rw [receipts_of_line received, framed, induction _ fewer readyAfter moment rfl,
          limit]
      · rw [receipts_of_other other received, framed]

theorem ready_start (limit : Nat) {parts : List (List UInt8)}
    (nonempty : ∀ part ∈ parts, part ≠ []) :
    Ready (start limit (parts.map .bytes)) parts :=
  { sound := ⟨rfl, Nat.le_refl _, List.not_mem_nil⟩
    working := rfl
    nonempty := nonempty
    source := rfl
    ended := nofun
    looks := nofun
    idle := fun _ => rfl }

/-- The reader hands out the framing of the whole stream, in whatever parts the
stream arrives. -/
theorem receipts_eq_framing (limit : Nat) {parts : List (List UInt8)}
    (nonempty : ∀ part ∈ parts, part ≠ []) (moment : Moment) :
    (start limit (parts.map .bytes)).receipts moment =
      framing limit parts.flatten :=
  receipts_of_ready (ready_start limit nonempty) moment

theorem receipts_eq_framing_of_cut_lines :
    (start 3 ([[0x61], [0x62, 0x0D], [0x0A, 0x63, 0x64], [0x65, 0x66, 0x0A]].map
      .bytes)).receipts .start =
      framing 3 [0x61, 0x62, 0x0D, 0x0A, 0x63, 0x64, 0x65, 0x66, 0x0A] := by
  have nonempty : ∀ part ∈ [[0x61], [0x62, 0x0D], [0x0A, 0x63, 0x64],
      [0x65, 0x66, (0x0A : UInt8)]], part ≠ [] := by
    decide
  exact receipts_eq_framing 3 nonempty .start

end LineReader

end RemoteInput
