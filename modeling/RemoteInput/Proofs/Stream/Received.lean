import Mathlib.Data.List.ReduceOption
import RemoteInput.Proofs.Stream.Framing

/-!
# What a line reader has read

The reads of a stream find bytes, and ends of the stream.  The stream may go on
after an end, and after a read that failed, so a reader is followed by what its
reads have found so far.  Its kept bytes are the last of the bytes that were
found, from where a line begins, or from within a line that was too long.

`reports_receive` says what an answer means: a line, and bytes that are no text,
are what stands between the ends of a line; a line that is too long has more
bytes than a line may have; and a read that failed is reported at once.
-/

namespace RemoteInput

namespace ReadEvent

/-- What the reads of an event find: its bytes, or an end of the stream. -/
def findings : ReadEvent → List (Option UInt8)
  | .bytes [] => [none]
  | .bytes (first :: more) => (first :: more).map some
  | .wait _ | .failure _ | .silence => []

/-- The failure of a read that fails. -/
def failure? : ReadEvent → Option StreamFailure
  | .failure fault => some fault
  | .bytes _ | .wait _ | .silence => none

theorem findings_leave (left : List UInt8) (rest : List ReadEvent) :
    (leave left rest).flatMap findings = left.map some ++ rest.flatMap findings := by
  cases left with
  | nil => rfl
  | cons first more => exact List.flatMap_cons

theorem failures_leave (left : List UInt8) (rest : List ReadEvent) :
    (leave left rest).filterMap failure? = rest.filterMap failure? := by
  cases left with
  | nil => rfl
  | cons first more => exact List.filterMap_cons_none rfl

/-- What was found by the reads that have come from a stream to what is left of
it.  After its last event a stream ends at every read. -/
def Finds (source left : List ReadEvent) (found : List (Option UInt8)) : Prop :=
  ∃ ends, source.flatMap findings ++ List.replicate ends none =
      found ++ left.flatMap findings ∧
    (left = [] ∨ ends = 0)

theorem Finds.refl (source : List ReadEvent) : Finds source source [] :=
  ⟨0, List.append_nil _, .inr rfl⟩

theorem Finds.step {source left : List ReadEvent} {event : ReadEvent}
    {found more : List (Option UInt8)} (finds : Finds source (event :: left) found)
    {rest : List ReadEvent}
    (splits : event.findings ++ left.flatMap findings = more ++ rest.flatMap findings) :
    Finds source rest (found ++ more) := by
  obtain ⟨ends, same, goesOn⟩ := finds
  have none : ends = 0 := goesOn.resolve_left (List.cons_ne_nil _ _)
  refine ⟨ends, ?_, .inr none⟩
  rw [same, List.flatMap_cons, splits, List.append_assoc]

theorem Finds.unfound {source left : List ReadEvent} {event : ReadEvent}
    {found : List (Option UInt8)} (finds : Finds source (event :: left) found)
    {rest : List ReadEvent}
    (nothing : event.findings ++ left.flatMap findings = rest.flatMap findings) :
    Finds source rest found := by
  have step := @Finds.step _ _ _ _ [] finds rest nothing
  rwa [List.append_nil] at step

theorem Finds.ends {source : List ReadEvent} {found : List (Option UInt8)}
    (finds : Finds source [] found) : Finds source [] (found ++ [none]) := by
  obtain ⟨ends, same, _⟩ := finds
  refine ⟨ends + 1, ?_, .inl rfl⟩
  rw [List.replicate_succ', ← List.append_assoc, same, List.flatMap_nil, List.append_nil,
    List.append_nil]

end ReadEvent

/-! ## Lines among what was found -/

/-- A line begins after what was found: at the beginning, after a line feed, or
at an end of the stream. -/
def BeginsLine (found : List (Option UInt8)) : Prop :=
  ∀ last, found.getLast? = some last → last = some lineFeed ∨ last = none

theorem beginsLine_nil : BeginsLine [] := nofun

theorem beginsLine_concat {last : Option UInt8} (found : List (Option UInt8))
    (ends : last = some lineFeed ∨ last = none) : BeginsLine (found ++ [last]) := by
  intro other isLast
  rw [List.getLast?_concat, Option.some.injEq] at isLast
  rw [← isLast]
  exact ends

/-- The line whose end was found last, and the bytes after it.  It ends at a line
feed, or at an end of the stream. -/
inductive TakesLine : List (Option UInt8) → List UInt8 → List UInt8 → Prop where
  | fed {earlier region rest : List (Option UInt8)} (begins : BeginsLine earlier)
      (clean : some lineFeed ∉ region) :
      TakesLine (earlier ++ region ++ some lineFeed :: rest) region.reduceOption
        rest.reduceOption
  | ended {earlier region : List (Option UInt8)} (begins : BeginsLine earlier)
      (clean : some lineFeed ∉ region) (atEnd : region.getLast? = some none) :
      TakesLine (earlier ++ region) region.reduceOption []

/-- A line that was found has more bytes than a limit, whether or not its end was
found too. -/
inductive Exceeds (limit : Nat) : List (Option UInt8) → Prop where
  | exceeds {earlier region rest : List (Option UInt8)} (begins : BeginsLine earlier)
      (clean : some lineFeed ∉ region) (long : limit < region.reduceOption.length) :
      Exceeds limit (earlier ++ region ++ rest)

section

variable {region : List (Option UInt8)}

private theorem clean_of_reduceOption {line : List UInt8}
    (isLine : region.reduceOption = line) (clean : lineFeed ∉ line) :
    some lineFeed ∉ region := by
  intro member
  rw [← List.reduceOption_mem_iff, isLine] at member
  exact clean member

private theorem reduceOption_eq_cons {piece others : List UInt8} {byte : UInt8}
    (bytes : region.reduceOption = piece ++ byte :: others) :
    ∃ first last, region = first ++ some byte :: last ∧ first.reduceOption = piece ∧
      last.reduceOption = others := by
  rw [List.append_cons, List.reduceOption_eq_append_iff] at bytes
  obtain ⟨upTo, after, rfl, isPiece, isRest⟩ := bytes
  rw [← List.concat_eq_append, List.reduceOption_eq_concat_iff] at isPiece
  obtain ⟨first, blank, rfl, isFirst, isBlank⟩ := isPiece
  refine ⟨first, blank ++ after, ?_, isFirst, ?_⟩
  · rw [List.append_assoc, List.cons_append]
  · rw [List.reduceOption_append, isBlank, isRest, List.nil_append]

end

/-! ## Decoding -/

/-- A decoder that was fed what was found keeps the last of its bytes, from where
a line begins, or from within one that it drops. -/
inductive Keeps (limit : Nat) : List (Option UInt8) → LineDecoder → Prop where
  | keeping {earlier region : List (Option UInt8)} {decoder : LineDecoder}
      (isLimit : decoder.limit = limit) (sound : decoder.Sound)
      (begins : BeginsLine earlier) (kept : region.reduceOption = decoder.buffer) :
      Keeps limit (earlier ++ region) decoder
  | dropping {earlier region : List (Option UInt8)} {decoder : LineDecoder}
      (isLimit : decoder.limit = limit) (drops : decoder.discarding = true)
      (kept : region.reduceOption = decoder.buffer) :
      Keeps limit (earlier ++ region) decoder

namespace Keeps

variable {limit : Nat} {found : List (Option UInt8)} {decoder : LineDecoder}

theorem limit_eq (keeps : Keeps limit found decoder) : decoder.limit = limit := by
  cases keeps with
  | keeping isLimit => exact isLimit
  | dropping isLimit => exact isLimit

theorem start (limit : Nat) : Keeps limit [] (.start limit) := by
  have sound : LineDecoder.Sound (.start limit) := ⟨rfl, Nat.le_refl _, List.not_mem_nil⟩
  exact @Keeps.keeping limit [] [] _ rfl sound beginsLine_nil rfl

theorem feed (keeps : Keeps limit found decoder) (bytes : List UInt8) :
    Keeps limit (found ++ bytes.map some) (decoder.feed bytes) := by
  have all : (bytes.map some).reduceOption = bytes := by
    rw [List.reduceOption, List.filterMap_map]
    exact List.filterMap_some
  cases keeps with
  | keeping isLimit sound begins kept =>
      rw [List.append_assoc]
      refine .keeping isLimit (sound.feed bytes) begins ?_
      rw [List.reduceOption_append, kept, all]
      rfl
  | dropping isLimit drops kept =>
      rw [List.append_assoc]
      refine .dropping isLimit drops ?_
      rw [List.reduceOption_append, kept, all]
      rfl

theorem atEnd (keeps : Keeps limit found decoder) : Keeps limit (found ++ [none]) decoder := by
  cases keeps with
  | keeping isLimit sound begins kept =>
      rw [List.append_assoc]
      refine .keeping isLimit sound begins ?_
      rw [List.reduceOption_append, kept]
      exact List.append_nil _
  | dropping isLimit drops kept =>
      rw [List.append_assoc]
      refine .dropping isLimit drops ?_
      rw [List.reduceOption_append, kept]
      exact List.append_nil _

theorem unsearched (keeps : Keeps limit found decoder) :
    Keeps limit found { decoder with searched := 0 } := by
  cases keeps with
  | keeping isLimit sound begins kept =>
      exact .keeping isLimit (sound.restart decoder.buffer) begins kept
  | dropping isLimit drops kept => exact .dropping isLimit drops kept

end Keeps

/-- What a decoder gives, and what it keeps afterwards. -/
inductive Decodes (limit : Nat) (found : List (Option UInt8)) :
    Decoded → LineDecoder → Prop where
  | line {line : List UInt8} {after : LineDecoder}
      (takes : TakesLine found line after.buffer) (keeps : Keeps limit found after) :
      Decodes limit found (.line (dropCarriageReturn line)) after
  | tooLong {after : LineDecoder} (exceeds : Exceeds limit found)
      (keeps : Keeps limit found after) : Decodes limit found .tooLong after
  | incomplete {after : LineDecoder} (keeps : Keeps limit found after)
      (clean : lineFeed ∉ after.buffer)
      (emptied : after.discarding = true → after.buffer = []) :
      Decodes limit found .incomplete after

theorem Decodes.keeps {limit : Nat} {found : List (Option UInt8)} {decoded : Decoded}
    {after : LineDecoder} (decodes : Decodes limit found decoded after) :
    Keeps limit found after := by
  cases decodes with
  | line takes keeps => exact keeps
  | tooLong exceeds keeps => exact keeps
  | incomplete keeps clean emptied => exact keeps

section

variable {limit : Nat} {found : List (Option UInt8)} {decoder : LineDecoder}

private theorem decodes_next_of_sound {earlier region : List (Option UInt8)}
    (isLimit : decoder.limit = limit) (sound : decoder.Sound) (begins : BeginsLine earlier)
    (kept : region.reduceOption = decoder.buffer) :
    Decodes limit (earlier ++ region) decoder.next.1 decoder.next.2 := by
  rcases LineDecoder.kept_cases decoder.limit decoder.buffer with
    ⟨piece, others, buffer, clean, short⟩ | ⟨long, clean⟩ | ⟨short, clean⟩
  · rw [LineDecoder.next_of_line sound buffer clean short]
    rw [buffer] at kept
    obtain ⟨first, last, rfl, isPiece, isRest⟩ := reduceOption_eq_cons kept
    have takes := @TakesLine.fed earlier first last begins (clean_of_reduceOption isPiece clean)
    rw [isPiece, isRest, List.append_assoc] at takes
    refine .line takes ?_
    rw [List.append_cons, ← List.append_assoc]
    refine .keeping isLimit (sound.restart others) ?_ isRest
    rw [← List.append_assoc]
    exact beginsLine_concat _ (.inl rfl)
  · rw [LineDecoder.next_of_tooLong sound long clean]
    refine .tooLong ?_ (.dropping isLimit rfl kept)
    rw [← List.take_append_drop (decoder.limit + 1) decoder.buffer,
      List.reduceOption_eq_append_iff] at kept
    obtain ⟨first, last, rfl, isFirst, _⟩ := kept
    rw [← List.append_assoc]
    refine .exceeds begins (clean_of_reduceOption isFirst clean) ?_
    rw [isFirst, List.length_take]
    omega
  · rw [LineDecoder.next_of_incomplete sound short clean]
    refine .incomplete (.keeping isLimit ?_ begins kept) clean ?_
    · refine ⟨sound.keeping, Nat.le_refl _, ?_⟩
      intro member
      exact clean (List.mem_of_mem_take member)
    · intro drops
      rw [sound.keeping] at drops
      cases drops

/-- What a decoder gives stands among what was found. -/
theorem decodes_next (keeps : Keeps limit found decoder) :
    Decodes limit found decoder.next.1 decoder.next.2 := by
  cases keeps with
  | keeping isLimit sound begins kept => exact decodes_next_of_sound isLimit sound begins kept
  | @dropping earlier region _ isLimit drops kept =>
      unfold LineDecoder.next
      rw [if_pos drops]
      cases rest : decoder.buffer.dropWhile (· ≠ lineFeed) with
      | nil =>
          rw [← List.append_nil (earlier ++ region)]
          refine .incomplete (.dropping isLimit drops rfl) List.not_mem_nil ?_
          intro _
          rfl
      | cons first others =>
          have isFeed : first = lineFeed := by
            have head := List.head?_dropWhile_not (· ≠ lineFeed) decoder.buffer
            rw [rest] at head
            simpa using head
          have split := List.takeWhile_append_dropWhile (p := (· ≠ lineFeed))
            (l := decoder.buffer)
          rw [rest, isFeed] at split
          rw [← split] at kept
          obtain ⟨dropped, last, rfl, _, isRest⟩ := reduceOption_eq_cons kept
          have again : LineDecoder.Sound
              { decoder with buffer := others, searched := 0, discarding := false } :=
            ⟨rfl, Nat.zero_le _, List.not_mem_nil⟩
          have begins : BeginsLine (earlier ++ dropped ++ [some lineFeed]) :=
            beginsLine_concat _ (.inl rfl)
          have sameLimit : LineDecoder.limit
              { decoder with buffer := others, searched := 0, discarding := false } = limit :=
            isLimit
          have decodes := decodes_next_of_sound sameLimit again begins isRest
          rw [List.append_cons, ← List.append_assoc, ← List.append_assoc]
          exact decodes

/-- At an end of the stream the rest of the bytes is a line too. -/
theorem decodes_last (keeps : Keeps limit found decoder)
    (atEnd : found.getLast? = some none) :
    Decodes limit found decoder.last.1 decoder.last.2 := by
  have decodes := decodes_next keeps
  unfold LineDecoder.last
  generalize decoder.next = decoded at decodes
  obtain ⟨decoded, after⟩ := decoded
  cases decodes with
  | line takes keeps => exact .line takes keeps
  | tooLong exceeds keeps => exact .tooLong exceeds keeps
  | incomplete keeps clean emptied =>
      dsimp only
      by_cases blank : after.buffer = [] ∨ after.buffer = [carriageReturn]
      · rw [if_pos blank]
        exact .incomplete keeps.unsearched clean emptied
      · rw [if_neg blank]
        cases keeps with
        | @keeping earlier region _ isLimit sound begins kept =>
            have some : region ≠ [] := by
              intro nothing
              rw [nothing] at kept
              exact blank (.inl kept.symm)
            rw [List.getLast?_append_of_ne_nil _ some] at atEnd
            have takes := TakesLine.ended begins (clean_of_reduceOption kept clean) atEnd
            rw [kept] at takes
            refine .line takes ?_
            rw [← List.append_nil (earlier ++ region)]
            refine .keeping isLimit (sound.restart []) ?_ rfl
            intro last isLast
            rw [List.getLast?_append_of_ne_nil _ some, atEnd] at isLast
            exact .inr (Option.some.inj isLast).symm
        | dropping isLimit drops kept => exact absurd (.inl (emptied drops)) blank

end

/-! ## Answers -/

namespace LineReader

/-- A reader whose reads have found something in a stream. -/
structure Follows (limit : Nat) (source : List ReadEvent) (found : List (Option UInt8))
    (reader : LineReader) : Prop where
  keeps : Keeps limit found reader.decoder
  finds : ReadEvent.Finds source reader.source found
  atEnd : reader.ended = true → found.getLast? = some none

/-- What an answer means, given what was found, the bytes that are kept, and how
the reads for the answer failed. -/
inductive Verdict (limit : Nat) (found : List (Option UInt8)) (kept : List UInt8) :
    List StreamFailure → Receipt → Prop where
  | line {line : List UInt8} {text : List Char} (takes : TakesLine found line kept)
      (isText : Utf8.decode? (dropCarriageReturn line) = some text) :
      Verdict limit found kept [] (.line (String.ofList text))
  | notText {line : List UInt8} (takes : TakesLine found line kept)
      (noText : Utf8.decode? (dropCarriageReturn line) = none) :
      Verdict limit found kept [] (.failed .invalidUtf8)
  | tooLong (exceeds : Exceeds limit found) :
      Verdict limit found kept [] (.failed (.lineTooLong limit))
  | failing (failure : StreamFailure) :
      Verdict limit found kept [failure] (.failed (.ofFailure failure))
  | endOfStream : Verdict limit found kept [] .endOfStream
  | overdue : Verdict limit found kept [] .overdue
  | silent : Verdict limit found kept [] .silent

variable {limit : Nat} {source : List ReadEvent} {found : List (Option UInt8)}
  {reader after : LineReader} {receipt : Receipt}

theorem follows_start (limit : Nat) (source : List ReadEvent) :
    Follows limit source [] (start limit source) :=
  ⟨.start limit, .refl source, nofun⟩

/-- An answer for which nothing was read. -/
private structure Settles (limit : Nat) (source : List ReadEvent)
    (found : List (Option UInt8)) (reader : LineReader) (receipt : Receipt)
    (after : LineReader) : Prop where
  verdict : Verdict limit found after.decoder.buffer [] receipt
  follows : Follows limit source found after
  stays : after.source = reader.source

private theorem settles_answer? {decoded : Decoded} {decoder : LineDecoder}
    (decodes : Decodes limit found decoded decoder)
    (finds : ReadEvent.Finds source reader.source found)
    (atEnd : reader.ended = true → found.getLast? = some none)
    (answered : answer? { reader with decoder } decoded = some (receipt, after)) :
    Settles limit source found reader receipt after := by
  cases decodes with
  | @line line _ takes keeps =>
      have handed : handOut { reader with decoder } (dropCarriageReturn line) =
          (receipt, after) :=
        Option.some.inj answered
      unfold handOut at handed
      cases read : Utf8.decode? (dropCarriageReturn line) with
      | some text =>
          rw [read] at handed
          cases handed
          exact ⟨.line takes read, ⟨keeps, finds, atEnd⟩, rfl⟩
      | none =>
          rw [read] at handed
          cases handed
          exact ⟨.notText takes read, ⟨keeps, finds, atEnd⟩, rfl⟩
  | tooLong exceeds keeps =>
      have failed : fail { reader with decoder } (.lineTooLong decoder.limit) =
          (receipt, after) :=
        Option.some.inj answered
      rw [keeps.limit_eq] at failed
      cases failed
      exact ⟨.tooLong exceeds, ⟨keeps, finds, atEnd⟩, rfl⟩
  | incomplete keeps => cases answered

private theorem settles_take? (follows : Follows limit source found reader)
    (taken : reader.take? = some (receipt, after)) :
    Settles limit source found reader receipt after :=
  settles_answer? (decodes_next follows.keeps) follows.finds follows.atEnd taken

private theorem follows_exhaust (follows : Follows limit source found reader) :
    Follows limit source found reader.exhaust :=
  ⟨(decodes_next follows.keeps).keeps, follows.finds, follows.atEnd⟩

private theorem settles_finish (follows : Follows limit source found reader)
    (ended : reader.ended = true) (finished : reader.finish = (receipt, after)) :
    Settles limit source found reader receipt after := by
  have decodes := decodes_last follows.keeps (follows.atEnd ended)
  unfold finish at finished
  dsimp only at finished
  cases answered : answer? { reader with decoder := reader.decoder.last.2 }
      reader.decoder.last.1 with
  | some answer =>
      rw [answered] at finished
      cases finished
      exact settles_answer? decodes follows.finds follows.atEnd answered
  | none =>
      rw [answered] at finished
      cases finished
      exact ⟨.endOfStream, ⟨decodes.keeps, follows.finds, follows.atEnd⟩, rfl⟩

private theorem settles_readEnd {rest : List ReadEvent}
    (keeps : Keeps limit found reader.decoder)
    (finds : ReadEvent.Finds source rest (found ++ [none]))
    (read : readEnd { reader with source := rest } = (receipt, after)) :
    Settles limit source (found ++ [none]) { reader with source := rest } receipt after := by
  have isEnd : (found ++ [none]).getLast? = some none := List.getLast?_concat
  unfold readEnd at read
  by_cases ended : reader.ended = true
  · rw [if_pos ended] at read
    cases read
    exact ⟨.endOfStream, ⟨keeps.atEnd, finds, fun _ => isEnd⟩, rfl⟩
  · rw [if_neg ended] at read
    have again : Follows limit source (found ++ [none])
        { reader with source := rest, ended := true } :=
      ⟨keeps.atEnd, finds, fun _ => isEnd⟩
    have settles := settles_finish again rfl read
    exact ⟨settles.verdict, settles.follows, settles.stays⟩

/-- An answer of a reader that had these events before it: what the reads for it
found, and how they failed. -/
def Reports (limit : Nat) (source : List ReadEvent) (found : List (Option UInt8))
    (events : List ReadEvent) (receipt : Receipt) (after : LineReader) : Prop :=
  ∃ more failures,
    Verdict limit (found ++ more) after.decoder.buffer failures receipt ∧
    Follows limit source (found ++ more) after ∧
    events.filterMap ReadEvent.failure? =
      failures ++ after.source.filterMap ReadEvent.failure?

private theorem reports_of_unfound {failures : List StreamFailure} {events : List ReadEvent}
    (verdict : Verdict limit found after.decoder.buffer failures receipt)
    (follows : Follows limit source found after)
    (failing : events.filterMap ReadEvent.failure? =
      failures ++ after.source.filterMap ReadEvent.failure?) :
    Reports limit source found events receipt after := by
  rw [← List.append_nil found] at verdict follows
  exact ⟨[], failures, verdict, follows, failing⟩

private theorem Settles.reports (settles : Settles limit source found reader receipt after) :
    Reports limit source found reader.source receipt after := by
  refine reports_of_unfound settles.verdict settles.follows ?_
  rw [settles.stays]
  rfl

/-- What was found before an answer took its reads. -/
private theorem Reports.later {events later : List ReadEvent} {more : List (Option UInt8)}
    (reports : Reports limit source (found ++ more) later receipt after)
    (same : events.filterMap ReadEvent.failure? = later.filterMap ReadEvent.failure?) :
    Reports limit source found events receipt after := by
  obtain ⟨others, failures, verdict, follows, failing⟩ := reports
  rw [List.append_assoc] at verdict follows
  exact ⟨more ++ others, failures, verdict, follows, same.trans failing⟩

/-- What keeping some bytes of a read leaves to be read. -/
private theorem follows_keep {first : UInt8} {more : List UInt8} {rest : List ReadEvent}
    (follows : Follows limit source found
      { reader with source := .bytes (first :: more) :: rest })
    (others : Nat) :
    Follows limit source (found ++ (first :: more.take others).map some)
      (reader.makeRoom.keep (first :: more.take others)
        (ReadEvent.leave (more.drop others) rest)) := by
  refine ⟨follows.keeps.feed _, follows.finds.step ?_, nofun⟩
  dsimp only [makeRoom, keep, ReadEvent.findings]
  rw [ReadEvent.findings_leave, ← List.append_assoc, ← List.map_append, List.cons_append,
    List.take_append_drop]

private theorem failures_kept (first : UInt8) (more : List UInt8) (rest : List ReadEvent)
    (others : Nat) :
    (.bytes (first :: more) :: rest : List ReadEvent).filterMap ReadEvent.failure? =
      (ReadEvent.leave (more.drop others) rest).filterMap ReadEvent.failure? := by
  rw [ReadEvent.failures_leave]
  rfl

private theorem reports_fetch {deadline : Option Nat} {moment final : Moment}
    {events : List ReadEvent}
    (fetched : fetch deadline reader moment events = (receipt, after, final))
    (follows : Follows limit source found { reader with source := events }) :
    Reports limit source found events receipt after := by
  revert found
  fun_induction fetch deadline reader moment events with
  | case1 reader moment prepared answer left ended =>
      intro found follows
      cases fetched
      have keeps : Keeps limit found prepared.decoder := follows.keeps
      have settles := settles_readEnd keeps follows.finds.ends ended
      exact settles.reports.later rfl
  | case2 reader moment prepared rest answer left ended =>
      intro found follows
      cases fetched
      have finds : ReadEvent.Finds source rest (found ++ [none]) := follows.finds.step rfl
      have keeps : Keeps limit found prepared.decoder := follows.keeps
      have settles := settles_readEnd keeps finds ended
      exact settles.reports.later rfl
  | case3 reader moment prepared first more rest others left kept answer last =>
      intro found follows
      rename_i taken
      cases fetched
      have settles := settles_take? (follows_keep follows others) taken
      exact settles.reports.later (failures_kept first more rest others)
  | case4 reader moment prepared first more rest others left kept nothing =>
      intro found follows
      rename_i induction
      have exhausted := follows_exhaust (follows_keep follows others)
      exact (induction fetched exhausted).later (failures_kept first more rest others)
  | case5 reader moment prepared failure rest answer left failed =>
      intro found follows
      cases failed
      cases fetched
      have finds : ReadEvent.Finds source rest found := follows.finds.unfound rfl
      exact reports_of_unfound (.failing failure) ⟨follows.keeps, finds, follows.atEnd⟩ rfl
  | case6 reader moment prepared duration rest waited passed induction =>
      intro found follows
      have finds : ReadEvent.Finds source rest found := follows.finds.unfound rfl
      exact induction fetched ⟨follows.keeps, finds, follows.atEnd⟩
  | case7 reader moment prepared duration rest left cut waited =>
      intro found follows
      cases fetched
      have finds : ReadEvent.Finds source (.wait left :: rest) found :=
        follows.finds.unfound rfl
      exact reports_of_unfound .overdue ⟨follows.keeps, finds, follows.atEnd⟩ rfl
  | case8 reader moment prepared rest silent =>
      intro found follows
      simp only [Prod.mk.injEq] at fetched
      obtain ⟨rfl, rfl, -⟩ := fetched
      exact reports_of_unfound .overdue ⟨follows.keeps, follows.finds, follows.atEnd⟩ rfl
  | case9 reader moment prepared rest silent =>
      intro found follows
      simp only [Prod.mk.injEq] at fetched
      obtain ⟨rfl, rfl, -⟩ := fetched
      exact reports_of_unfound .silent ⟨follows.keeps, follows.finds, follows.atEnd⟩ rfl

/-- Receiving reports what the reads of a stream have found. -/
theorem reports_receive {deadline : Option Nat} {moment final : Moment}
    (follows : Follows limit source found reader)
    (received : reader.receive deadline moment = (receipt, after, final)) :
    Reports limit source found reader.source receipt after := by
  unfold receive at received
  by_cases failed : reader.failed = true
  · rw [if_pos failed] at received
    cases received
    exact reports_of_unfound .endOfStream ⟨follows.keeps, follows.finds, follows.atEnd⟩ rfl
  rw [if_neg failed] at received
  by_cases readable : reader.readable = true
  · rw [if_pos readable] at received
    by_cases ended : reader.ended = true
    · rw [if_pos ended] at received
      cases finished : reader.finish with
      | mk answer last =>
          rw [finished] at received
          cases received
          exact (settles_finish follows ended finished).reports
    · rw [if_neg ended] at received
      cases taken : reader.take? with
      | some answer =>
          rw [taken] at received
          cases received
          exact (settles_take? follows taken).reports
      | none =>
          rw [taken] at received
          exact reports_fetch received (follows_exhaust follows)
  · rw [if_neg readable] at received
    exact reports_fetch received follows

end LineReader

end RemoteInput
