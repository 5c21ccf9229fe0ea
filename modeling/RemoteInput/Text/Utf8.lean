/-!
# UTF-8

The encoding of characters as bytes, and a decoder that takes one step at a
time.  A step reads either one character in its shortest form, or a broken
piece: the longest run of bytes that begins some character without finishing
it, and one byte at least.  Strict reading refuses broken pieces; lenient
reading puts the replacement character in the place of each.
-/

namespace RemoteInput

namespace Utf8

/-- The bytes of a character. -/
def encodeChar (c : Char) : List UInt8 :=
  let n := c.toNat
  if n < 0x80 then [UInt8.ofNat n]
  else if n < 0x800 then
    [UInt8.ofNat (0xC0 + n / 0x40), UInt8.ofNat (0x80 + n % 0x40)]
  else if n < 0x10000 then
    [UInt8.ofNat (0xE0 + n / 0x1000), UInt8.ofNat (0x80 + n / 0x40 % 0x40),
      UInt8.ofNat (0x80 + n % 0x40)]
  else
    [UInt8.ofNat (0xF0 + n / 0x40000), UInt8.ofNat (0x80 + n / 0x1000 % 0x40),
      UInt8.ofNat (0x80 + n / 0x40 % 0x40), UInt8.ofNat (0x80 + n % 0x40)]

/-- The bytes of a text. -/
def encode (text : List Char) : List UInt8 :=
  text.flatMap encodeChar

/-- The range in which the second byte of a longer form must lie, which leaves
out overlong forms, surrogates and values that are too large. -/
def secondRange (lead : UInt8) : UInt8 × UInt8 :=
  if lead = 0xE0 then (0xA0, 0xBF)
  else if lead = 0xED then (0x80, 0x9F)
  else if lead = 0xF0 then (0x90, 0xBF)
  else if lead = 0xF4 then (0x80, 0x8F)
  else (0x80, 0xBF)

/-- How many bytes follow a lead byte; none for a byte that leads nothing. -/
def tailLength? (lead : UInt8) : Option Nat :=
  if lead < 0x80 then some 0
  else if 0xC2 ≤ lead && lead ≤ 0xDF then some 1
  else if 0xE0 ≤ lead && lead ≤ 0xEF then some 2
  else if 0xF0 ≤ lead && lead ≤ 0xF4 then some 3
  else none

/-- A byte in a closed range. -/
def inside (range : UInt8 × UInt8) (byte : UInt8) : Bool :=
  range.1 ≤ byte && byte ≤ range.2

/-- A byte that continues a character. -/
def isContinuation (byte : UInt8) : Bool :=
  inside (0x80, 0xBF) byte

/-- The payload of a continuation byte. -/
def payload (byte : UInt8) : Nat :=
  byte.toNat % 0x40

/-- The outcome of one step: a character, or a broken piece. -/
inductive Step where
  | character (c : Char)
  | broken
  deriving DecidableEq, Repr

/-- One step over the bytes after a lead byte: what was read, and the bytes
that are left. -/
def step (lead : UInt8) (rest : List UInt8) : Step × List UInt8 :=
  match tailLength? lead with
  | none => (.broken, rest)
  | some 0 => (.character (Char.ofNat lead.toNat), rest)
  | some 1 =>
      match rest with
      | b :: rest₁ =>
          if isContinuation b then
            (.character (Char.ofNat (lead.toNat % 0x20 * 0x40 + payload b)), rest₁)
          else (.broken, rest)
      | [] => (.broken, [])
  | some 2 =>
      match rest with
      | b :: rest₁ =>
          if inside (secondRange lead) b then
            match rest₁ with
            | c :: rest₂ =>
                if isContinuation c then
                  (.character (Char.ofNat
                    (lead.toNat % 0x10 * 0x1000 + payload b * 0x40 + payload c)), rest₂)
                else (.broken, rest₁)
            | [] => (.broken, [])
          else (.broken, rest)
      | [] => (.broken, [])
  | some _ =>
      match rest with
      | b :: rest₁ =>
          if inside (secondRange lead) b then
            match rest₁ with
            | c :: rest₂ =>
                if isContinuation c then
                  match rest₂ with
                  | d :: rest₃ =>
                      if isContinuation d then
                        (.character (Char.ofNat
                          (lead.toNat % 0x08 * 0x40000 + payload b * 0x1000
                            + payload c * 0x40 + payload d)), rest₃)
                      else (.broken, rest₂)
                  | [] => (.broken, [])
                else (.broken, rest₁)
            | [] => (.broken, [])
          else (.broken, rest)
      | [] => (.broken, [])

/-- A step leaves no more bytes than followed the lead byte. -/
theorem length_step_le (lead : UInt8) (rest : List UInt8) :
    (step lead rest).2.length ≤ rest.length := by
  unfold step
  repeat' split
  all_goals simp <;> omega

/-- The steps that read a list of bytes from end to end. -/
def steps : List UInt8 → List Step
  | [] => []
  | lead :: rest => (step lead rest).1 :: steps (step lead rest).2
termination_by bytes => bytes.length
decreasing_by
  have := length_step_le lead rest
  simp only [List.length_cons]
  omega

/-- The text of a list of bytes, if every step reads a character. -/
def decode? (bytes : List UInt8) : Option (List Char) :=
  (steps bytes).mapM fun
    | .character c => some c
    | .broken => none

/-- The text of a list of bytes, with the replacement character in the place
of each broken piece. -/
def decodeLossy (bytes : List UInt8) : List Char :=
  (steps bytes).map fun
    | .character c => c
    | .broken => '\uFFFD'

end Utf8

end RemoteInput
