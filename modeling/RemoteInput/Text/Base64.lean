/-!
# Base64

The standard alphabet.  Encoding groups bytes by three and fills the last
group with padding.  Decoding takes the same texts with their padding complete,
partial or absent, and nothing else: the bits that the last symbol does not
need must be zero, so a list of bytes has one text up to its padding.
-/

namespace RemoteInput

namespace Base64

/-- The symbol of a value below sixty-four. -/
def symbol (value : Nat) : Char :=
  if value < 26 then Char.ofNat (0x41 + value)
  else if value < 52 then Char.ofNat (0x61 + (value - 26))
  else if value < 62 then Char.ofNat (0x30 + (value - 52))
  else if value = 62 then '+'
  else '/'

/-- The value of a symbol. -/
def value? (c : Char) : Option Nat :=
  if 'A' ≤ c && c ≤ 'Z' then some (c.toNat - 0x41)
  else if 'a' ≤ c && c ≤ 'z' then some (c.toNat - 0x61 + 26)
  else if '0' ≤ c && c ≤ '9' then some (c.toNat - 0x30 + 52)
  else if c = '+' then some 62
  else if c = '/' then some 63
  else none

/-- The padding character. -/
def pad : Char := '='

/-- The text of a list of bytes, padded to a multiple of four symbols. -/
def encode : List UInt8 → List Char
  | [] => []
  | [a] =>
      let n := a.toNat
      [symbol (n / 4), symbol (n % 4 * 16), pad, pad]
  | [a, b] =>
      let n := a.toNat * 256 + b.toNat
      [symbol (n / 1024), symbol (n / 16 % 64), symbol (n % 16 * 4), pad]
  | a :: b :: c :: rest =>
      let n := a.toNat * 65536 + b.toNat * 256 + c.toNat
      symbol (n / 262144) :: symbol (n / 4096 % 64) :: symbol (n / 64 % 64)
        :: symbol (n % 64) :: encode rest

/-- What a last group of values stands for: no group, two or three values
whose spare bits are zero. -/
def decodeLast? : List Nat → Option (List UInt8)
  | [] => some []
  | [u, v] => if v % 16 = 0 then some [UInt8.ofNat (u * 4 + v / 16)] else none
  | [u, v, w] =>
      if w % 4 = 0 then
        let n := u * 4096 + v * 64 + w
        some [UInt8.ofNat (n / 1024), UInt8.ofNat (n / 4 % 256)]
      else none
  | _ => none

/-- The bytes of a list of symbol values without padding. -/
def decodeValues? : List Nat → Option (List UInt8)
  | u :: v :: w :: x :: rest => do
      let n := u * 262144 + v * 4096 + w * 64 + x
      let tail ← decodeValues? rest
      some (UInt8.ofNat (n / 65536) :: UInt8.ofNat (n / 256 % 256)
        :: UInt8.ofNat (n % 256) :: tail)
  | last => decodeLast? last

/-- How much padding completes a group of this many symbols. -/
def padding (symbols : Nat) : Nat :=
  (4 - symbols % 4) % 4

/-- The bytes of a text whose padding may be left out in part or whole. -/
def decode? (text : List Char) : Option (List UInt8) :=
  let symbols := text.takeWhile (· ≠ pad)
  let tail := text.dropWhile (· ≠ pad)
  if tail.all (· = pad) && tail.length ≤ padding symbols.length then do
    let values ← symbols.mapM value?
    decodeValues? values
  else
    none

end Base64

end RemoteInput
