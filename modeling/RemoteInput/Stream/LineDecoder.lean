/-!
# Cutting bytes into lines

The decoder keeps the bytes that were received and not yet used.  A line ends
at a line feed.  As soon as more bytes than a line may have are kept and the
line feed is not among the first of them, the line is reported as too long and
the rest of it is dropped up to its line feed.  The decoder remembers how many
kept bytes it has searched, so that no byte is searched twice.
-/

namespace RemoteInput

/-- The line feed byte. -/
def lineFeed : UInt8 := 0x0A

/-- The carriage return byte. -/
def carriageReturn : UInt8 := 0x0D

/-- Drops one carriage return at the end of a line. -/
def dropCarriageReturn (line : List UInt8) : List UInt8 :=
  if line.getLast? = some carriageReturn then line.dropLast else line

/-- Received bytes on their way into lines. -/
structure LineDecoder where
  /-- The most bytes that a line may have, its carriage return included. -/
  limit : Nat
  /-- The bytes that were received and not yet used. -/
  buffer : List UInt8
  /-- How many of them are known to hold no line feed. -/
  searched : Nat
  /-- The rest of a line that was too long is being dropped. -/
  discarding : Bool
  deriving DecidableEq, Repr

/-- What the kept bytes give. -/
inductive Decoded where
  | line (bytes : List UInt8)
  | tooLong
  | incomplete
  deriving DecidableEq, Repr

namespace LineDecoder

/-- A decoder that has received nothing. -/
def start (limit : Nat) : LineDecoder :=
  { limit, buffer := [], searched := 0, discarding := false }

/-- Keeps further bytes. -/
def feed (decoder : LineDecoder) (bytes : List UInt8) : LineDecoder :=
  { decoder with buffer := decoder.buffer ++ bytes }

/-- Takes a line from the kept bytes, none of which belongs to a line that was
too long. -/
def takeLine (decoder : LineDecoder) : Decoded × LineDecoder :=
  let fresh := decoder.buffer.drop decoder.searched
  let window := fresh.take (decoder.limit + 1 - decoder.searched)
  let before := window.takeWhile (· ≠ lineFeed)
  if before.length < window.length then
    (.line (dropCarriageReturn (decoder.buffer.take decoder.searched ++ before)),
      { decoder with buffer := fresh.drop (before.length + 1), searched := 0 })
  else if (decoder.buffer.drop decoder.limit).isEmpty then
    (.incomplete,
      { decoder with searched := min (decoder.limit + 1) decoder.buffer.length })
  else
    (.tooLong, { decoder with discarding := true })

/-- Takes a line, after dropping the rest of a line that was too long. -/
def next (decoder : LineDecoder) : Decoded × LineDecoder :=
  if decoder.discarding then
    match decoder.buffer.dropWhile (· ≠ lineFeed) with
    | [] => (.incomplete, { decoder with buffer := [], searched := 0 })
    | _ :: rest =>
        takeLine { decoder with buffer := rest, searched := 0, discarding := false }
  else
    takeLine decoder

/-- Takes a line at the end of the bytes, where a last line needs no line feed
but must have a byte other than a single carriage return. -/
def last (decoder : LineDecoder) : Decoded × LineDecoder :=
  match decoder.next with
  | (.incomplete, decoder) =>
      if decoder.buffer = [] ∨ decoder.buffer = [carriageReturn] then
        (.incomplete, { decoder with searched := 0 })
      else
        (.line (dropCarriageReturn decoder.buffer),
          { decoder with buffer := [], searched := 0 })
  | decoded => decoded

/-- Taking a line uses up at least one byte. -/
theorem length_takeLine_lt {decoder after : LineDecoder} {line : List UInt8}
    (taken : decoder.takeLine = (.line line, after)) :
    after.buffer.length < decoder.buffer.length := by
  unfold takeLine at taken
  dsimp only at taken
  split at taken
  case isTrue found =>
    simp only [Prod.mk.injEq] at taken
    obtain ⟨-, rfl⟩ := taken
    simp only [List.length_take, List.length_drop] at found ⊢
    omega
  case isFalse =>
    split at taken <;> simp at taken

/-- Keeping on never adds bytes. -/
theorem length_takeLine_le (decoder : LineDecoder) :
    decoder.takeLine.2.buffer.length ≤ decoder.buffer.length := by
  unfold takeLine
  dsimp only
  split
  · simp only [List.length_drop]
    omega
  · split <;> simp

private theorem length_afterFeed_lt {buffer rest : List UInt8} {first : UInt8}
    (dropped : buffer.dropWhile (· ≠ lineFeed) = first :: rest) :
    rest.length < buffer.length := by
  have suffix := List.dropWhile_suffix (l := buffer) (· ≠ lineFeed)
  have := suffix.length_le
  simp only [dropped, List.length_cons] at this
  omega

/-- Taking a line uses up at least one byte, also after dropping. -/
theorem length_next_lt {decoder after : LineDecoder} {line : List UInt8}
    (taken : decoder.next = (.line line, after)) :
    after.buffer.length < decoder.buffer.length := by
  unfold next at taken
  split at taken
  · split at taken
    · simp at taken
    · next _ first rest dropped =>
      have := length_takeLine_lt taken
      have := length_afterFeed_lt dropped
      simp only at *
      omega
  · exact length_takeLine_lt taken

/-- Taking a line never adds bytes, also after dropping. -/
theorem length_next_le (decoder : LineDecoder) :
    decoder.next.2.buffer.length ≤ decoder.buffer.length := by
  unfold next
  split
  · split
    · simp
    · next _ first rest dropped =>
      have := length_afterFeed_lt dropped
      have := length_takeLine_le
        { decoder with buffer := rest, searched := 0, discarding := false }
      simp only at *
      omega
  · exact length_takeLine_le decoder

/-- A line at the end of the bytes uses up at least one byte. -/
theorem length_last_lt {decoder after : LineDecoder} {line : List UInt8}
    (taken : decoder.last = (.line line, after)) :
    after.buffer.length < decoder.buffer.length := by
  unfold last at taken
  split at taken
  next decoder' taken' =>
    have bound := length_next_le decoder
    simp only [taken'] at bound
    split at taken
    · simp at taken
    · next nonempty =>
      simp only [Prod.mk.injEq] at taken
      obtain ⟨-, rfl⟩ := taken
      have : decoder'.buffer ≠ [] := fun empty => nonempty (.inl empty)
      have := List.length_pos_iff.mpr this
      simp only [List.length_nil]
      omega
  next => exact length_next_lt taken

end LineDecoder

end RemoteInput
