import RemoteInput.Moment
import RemoteInput.Stream.Error
import RemoteInput.Stream.LineDecoder
import RemoteInput.Stream.Storage
import RemoteInput.Text.Utf8

/-!
# Reading lines from a stream

A stream is given by what its reads will do, one after the other; after the
last one every read finds the end of the stream.  The reader hands out every
line that the kept bytes hold before it reads again, and a read takes as many
bytes as are offered and as its storage has room for.  A read at the end of the
stream turns the kept bytes into a last line, once.  After an error the reader
reports the end of the stream once and then reads on.

Reading waits for a slow peer.  A deadline bounds the wait: when it comes before
the bytes do, the wait ends, and no byte is lost.
-/

namespace RemoteInput

/-- What a read of the stream does. -/
inductive ReadEvent where
  /-- It yields bytes, in several reads if they are many; no bytes at all are
  the end of the stream. -/
  | bytes (received : List UInt8)
  /-- It takes this many milliseconds before the next event happens. -/
  | wait (duration : Nat)
  | failure (failure : StreamFailure)
  /-- It never answers. -/
  | silence
  deriving DecidableEq, Repr

namespace ReadEvent

/-- How many bytes an event yields. -/
def size : ReadEvent → Nat
  | .bytes received => received.length
  | _ => 0

/-- How many bytes some events yield. -/
def total : List ReadEvent → Nat
  | [] => 0
  | event :: events => event.size + total events

/-- The events that remain when a read left some bytes of the first one. -/
def leave : List UInt8 → List ReadEvent → List ReadEvent
  | [], rest => rest
  | first :: more, rest => .bytes (first :: more) :: rest

/-- Bytes that a read left are still to come. -/
theorem total_leave (left : List UInt8) (rest : List ReadEvent) :
    total (leave left rest) = left.length + total rest := by
  cases left <;> simp [leave, total, size]

/-- A read that yields a byte leaves fewer bytes, in no more events. -/
theorem weight_leave_lt (first : UInt8) (more : List UInt8) (rest : List ReadEvent)
    (count : Nat) :
    total (leave (more.drop count) rest) + (leave (more.drop count) rest).length <
      total (.bytes (first :: more) :: rest)
        + (.bytes (first :: more) :: rest : List ReadEvent).length := by
  have events : (leave (more.drop count) rest).length ≤ rest.length + 1 := by
    cases more.drop count <;> simp [leave]
  rw [total_leave]
  simp only [List.length_drop, total, List.length_cons, size]
  omega

end ReadEvent

/-- What asking for a line gives. -/
inductive Receipt where
  | line (text : String)
  | endOfStream
  | failed (error : ChannelError)
  /-- The deadline came first. -/
  | overdue
  /-- There is no deadline and the peer never answers. -/
  | silent
  deriving DecidableEq, Repr

/-- The reading side of a line channel. -/
structure LineReader where
  decoder : LineDecoder
  /-- Where the bytes lie that the decoder keeps. -/
  storage : Storage
  /-- The kept bytes may hold something to hand out. -/
  readable : Bool
  /-- The last read found the end of the stream. -/
  ended : Bool
  /-- The last answer was an error. -/
  failed : Bool
  source : List ReadEvent
  deriving DecidableEq, Repr

namespace LineReader

/-- A reader at the start of a stream. -/
def start (limit : Nat) (source : List ReadEvent) : LineReader :=
  { decoder := .start limit
    storage := .start
    readable := false
    ended := false
    failed := false
    source }

/-- Reports an error, which the reader remembers. -/
def fail (reader : LineReader) (error : ChannelError) : Receipt × LineReader :=
  (.failed error, { reader with readable := true, failed := true })

/-- Hands out the bytes of a line, which must be UTF-8. -/
def handOut (reader : LineReader) (line : List UInt8) : Receipt × LineReader :=
  match Utf8.decode? line with
  | some text => (.line (String.ofList text), { reader with readable := true })
  | none => reader.fail .invalidUtf8

/-- Hands out what the decoder gave, if that is a line or an error; the reader
holds the decoder as it is afterwards. -/
def answer? (reader : LineReader) : Decoded → Option (Receipt × LineReader)
  | .line line => some (reader.handOut line)
  | .tooLong => some (reader.fail (.lineTooLong reader.decoder.limit))
  | .incomplete => none

/-- Hands out a line or an error that the kept bytes hold, if any. -/
def take? (reader : LineReader) : Option (Receipt × LineReader) :=
  let taken := reader.decoder.next
  answer? { reader with decoder := taken.2 } taken.1

/-- The kept bytes hold nothing more to hand out. -/
def exhaust (reader : LineReader) : LineReader :=
  { reader with decoder := reader.decoder.next.2, readable := false }

/-- Hands out what is left at the end of the stream. -/
def finish (reader : LineReader) : Receipt × LineReader :=
  let taken := reader.decoder.last
  let reader := { reader with decoder := taken.2 }
  (answer? reader taken.1).getD (.endOfStream, { reader with readable := false })

/-- A read finds the end of the stream; only the first of several such reads
looks at the kept bytes. -/
def readEnd (reader : LineReader) : Receipt × LineReader :=
  if reader.ended then
    (.endOfStream, reader)
  else
    finish { reader with ended := true }

/-- Prepares the storage for a read. -/
def makeRoom (reader : LineReader) : LineReader :=
  { reader with storage := reader.storage.makeRoom reader.decoder.buffer.length }

/-- Keeps the bytes of a read and remembers the events after it. -/
def keep (reader : LineReader) (bytes : List UInt8) (source : List ReadEvent) : LineReader :=
  { reader with
    decoder := reader.decoder.feed bytes
    storage := reader.storage.fill bytes.length
    ended := false
    source }

/-- Reads until there is something to hand out.  Gives the answer, the reader
afterwards and the moment of the answer. -/
def fetch (deadline : Option Nat) (reader : LineReader) (moment : Moment)
    (source : List ReadEvent) : Receipt × LineReader × Moment :=
  let reader := reader.makeRoom
  match source with
  | [] =>
      let (receipt, reader) := readEnd { reader with source := [] }
      (receipt, reader, moment)
  | .bytes [] :: rest =>
      let (receipt, reader) := readEnd { reader with source := rest }
      (receipt, reader, moment)
  | .bytes (first :: more) :: rest =>
      let others := reader.storage.room - 1
      let source := ReadEvent.leave (more.drop others) rest
      let reader := reader.keep (first :: more.take others) source
      match reader.take? with
      | some (receipt, reader) => (receipt, reader, moment)
      | none => fetch deadline reader.exhaust moment source
  | .failure failure :: rest =>
      let (receipt, reader) := { reader with source := rest }.fail (.ofFailure failure)
      (receipt, reader, moment)
  | .wait duration :: rest =>
      match moment.wait deadline duration with
      | .ok moment => fetch deadline reader moment rest
      | .error (left, moment) =>
          (.overdue, { reader with source := .wait left :: rest }, moment)
  | .silence :: rest =>
      let reader := { reader with source := .silence :: rest }
      match deadline with
      | some limit => (.overdue, reader, { clock := max limit moment.clock, steps := 0 })
      | none => (.silent, reader, moment)
termination_by ReadEvent.total source + source.length
decreasing_by
  · exact ReadEvent.weight_leave_lt first more rest _
  · simp [ReadEvent.total, ReadEvent.size]

/-- Asks for the next line at a moment, up to a deadline.  Gives the answer, the
reader afterwards and the moment of the answer. -/
def receive (deadline : Option Nat) (reader : LineReader) (moment : Moment) :
    Receipt × LineReader × Moment :=
  if reader.failed then
    (.endOfStream, { reader with readable := false, failed := false }, moment)
  else if reader.readable then
    if reader.ended then
      let (receipt, reader) := reader.finish
      (receipt, reader, moment)
    else
      match reader.take? with
      | some (receipt, reader) => (receipt, reader, moment)
      | none => fetch deadline reader.exhaust moment reader.source
  else
    fetch deadline reader moment reader.source

/-- The bytes that the reader keeps or will still read. -/
def remaining (reader : LineReader) : Nat :=
  reader.decoder.buffer.length + ReadEvent.total reader.source

private theorem handOut_line {reader after : LineReader} {line : List UInt8} {text : String}
    (handed : reader.handOut line = (.line text, after)) :
    after = { reader with readable := true } := by
  unfold handOut fail at handed
  split at handed <;> simp_all

private theorem answer?_line {reader after : LineReader} {decoded : Decoded} {text : String}
    (answered : reader.answer? decoded = some (.line text, after)) :
    ∃ line, decoded = .line line ∧ after = { reader with readable := true } := by
  unfold answer? fail at answered
  split at answered
  · next line => exact ⟨line, rfl, handOut_line (by simpa using answered)⟩
  · simp at answered
  · simp at answered

private theorem take?_line {reader after : LineReader} {text : String}
    (taken : reader.take? = some (.line text, after)) :
    after.remaining < reader.remaining := by
  unfold take? at taken
  obtain ⟨line, decoded, rfl⟩ := answer?_line taken
  have next_eq : reader.decoder.next = (.line line, reader.decoder.next.2) := Prod.ext decoded rfl
  have := LineDecoder.length_next_lt next_eq
  simp only [remaining]
  omega

private theorem exhaust_remaining (reader : LineReader) :
    reader.exhaust.remaining ≤ reader.remaining := by
  have := LineDecoder.length_next_le reader.decoder
  simp only [remaining, exhaust]
  omega

private theorem finish_line {reader after : LineReader} {text : String}
    (finished : reader.finish = (.line text, after)) :
    after.remaining < reader.remaining := by
  unfold finish at finished
  dsimp only at finished
  cases answered : answer? { reader with decoder := reader.decoder.last.2 }
      reader.decoder.last.1 with
  | none => simp [answered] at finished
  | some found =>
    rw [answered, Option.getD_some] at finished
    subst finished
    obtain ⟨line, decoded, rfl⟩ := answer?_line answered
    have last_eq : reader.decoder.last = (.line line, reader.decoder.last.2) := Prod.ext decoded rfl
    have := LineDecoder.length_last_lt last_eq
    simp only [remaining]
    omega

private theorem readEnd_line {reader after : LineReader} {text : String}
    (ended : reader.readEnd = (.line text, after)) :
    after.remaining < reader.remaining := by
  unfold readEnd at ended
  split at ended
  · simp at ended
  · have := finish_line ended
    simpa only [remaining] using this

private theorem makeRoom_decoder (reader : LineReader) :
    reader.makeRoom.decoder = reader.decoder := rfl

private theorem keep_remaining (reader : LineReader) (first : UInt8) (more : List UInt8)
    (count : Nat) (rest : List ReadEvent) :
    (reader.keep (first :: more.take count) (ReadEvent.leave (more.drop count) rest)).remaining =
      reader.decoder.buffer.length + ReadEvent.total (.bytes (first :: more) :: rest) := by
  have := ReadEvent.total_leave (more.drop count) rest
  simp only [remaining, keep, LineDecoder.feed, List.length_append, List.length_cons,
    List.length_take, List.length_drop, ReadEvent.total, ReadEvent.size] at *
  omega

private theorem fetch_line {deadline : Option Nat} {source : List ReadEvent}
    {reader after : LineReader} {moment final : Moment} {text : String}
    (fetched : fetch deadline reader moment source = (.line text, after, final)) :
    after.remaining < reader.decoder.buffer.length + ReadEvent.total source := by
  fun_induction fetch deadline reader moment source with
  | case1 reader moment prepared receipt reader' found =>
    simp only [Prod.mk.injEq] at fetched
    obtain ⟨rfl, rfl, -⟩ := fetched
    simpa [prepared, makeRoom_decoder, remaining] using readEnd_line found
  | case2 reader moment prepared rest receipt reader' found =>
    simp only [Prod.mk.injEq] at fetched
    obtain ⟨rfl, rfl, -⟩ := fetched
    simpa [prepared, makeRoom_decoder, remaining, ReadEvent.total, ReadEvent.size] using readEnd_line found
  | case3 reader moment prepared first more rest others source kept receipt reader' found =>
    simp only [Prod.mk.injEq] at fetched
    obtain ⟨rfl, rfl, -⟩ := fetched
    have := take?_line found
    rwa [keep_remaining, makeRoom_decoder] at this
  | case4 reader moment prepared first more rest others source kept found ih =>
    have := ih fetched
    have bound := exhaust_remaining kept
    rw [keep_remaining, makeRoom_decoder] at bound
    exact Nat.lt_of_lt_of_le this bound
  | case5 => simp_all [fail]
  | case6 reader moment prepared duration rest moment' waited ih =>
    have := ih fetched
    simpa only [prepared, makeRoom_decoder, ReadEvent.total, ReadEvent.size,
      Nat.zero_add] using this
  | case7 => simp_all
  | case8 => simp_all
  | case9 => simp_all

/-- Receiving a line uses up at least one byte, so a stream has no more lines
than bytes. -/
theorem remaining_receive_lt {deadline : Option Nat} {reader after : LineReader}
    {moment final : Moment} {text : String}
    (received : reader.receive deadline moment = (.line text, after, final)) :
    after.remaining < reader.remaining := by
  unfold receive at received
  split at received
  · simp at received
  · split at received
    · split at received
      · simp only [Prod.mk.injEq] at received
        exact finish_line (Prod.ext received.1 received.2.1)
      · split at received
        · next found =>
          simp only [Prod.mk.injEq] at received
          obtain ⟨rfl, rfl, -⟩ := received
          exact take?_line found
        · have := fetch_line received
          have := exhaust_remaining reader
          simp only [remaining, exhaust] at *
          omega
    · exact fetch_line received

end LineReader

end RemoteInput
