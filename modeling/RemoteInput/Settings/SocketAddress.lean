import RemoteInput.Text.Numeral
import RemoteInput.Text.Quoted

/-!
# Socket addresses

A socket address is an IP address and a port.  An address of version four is
four decimal numbers without leading zeros.  An address of version six is eight
groups of hexadecimal digits; one run of zero groups may be left out, the last
two groups may be written as an address of version four, and a zone number may
follow.  The written form leaves out the longest run of zero groups, the first
one if several are longest, and keeps the version-four form of mapped addresses.
-/

namespace RemoteInput

/-- An address of version four. -/
structure Ipv4Address where
  a : UInt8
  b : UInt8
  c : UInt8
  d : UInt8
  deriving DecidableEq, Repr

namespace Ipv4Address

/-- The two groups of an address of version six that the address stands for. -/
def groups (address : Ipv4Address) : List UInt16 :=
  [UInt16.ofNat (address.a.toNat * 256 + address.b.toNat),
    UInt16.ofNat (address.c.toNat * 256 + address.d.toNat)]

/-- The address that two groups stand for. -/
def ofGroups (high low : UInt16) : Ipv4Address :=
  { a := UInt8.ofNat (high.toNat / 256)
    b := UInt8.ofNat (high.toNat % 256)
    c := UInt8.ofNat (low.toNat / 256)
    d := UInt8.ofNat (low.toNat % 256) }

/-- The dotted form. -/
def text (address : Ipv4Address) : List Char :=
  ['.'].intercalate
    ([address.a, address.b, address.c, address.d].map fun octet =>
      Nat.toDigits 10 octet.toNat)

end Ipv4Address

/-- An IP address and a port. -/
inductive SocketAddress where
  | v4 (address : Ipv4Address) (port : UInt16)
  /-- The groups of an address of version six are eight. -/
  | v6 (groups : List UInt16) (zone : UInt32) (port : UInt16)
  deriving DecidableEq, Repr

namespace SocketAddress

/-- Reads one given character. -/
def char? (c : Char) : List Char → Option (List Char)
  | first :: rest => if first = c then some rest else none
  | [] => none

/-- Reads a number below a bound: all digits that follow, at least one. -/
def number? (base bound : Nat) (text : List Char) : Option (Nat × List Char) := do
  let isDigit := fun c => (Text.digitValue? base c).isSome
  let digits := text.takeWhile isDigit
  let value ← Text.digitsValue? base digits
  if digits.isEmpty || bound ≤ value then none else some (value, text.dropWhile isDigit)

/-- Reads a number of an address of version four: at most three digits, and no
leading zero. -/
def octet? (text : List Char) : Option (UInt8 × List Char) := do
  let (value, rest) ← number? 10 256 text
  let width := text.length - rest.length
  if 3 < width || (text.head? = some '0' && 1 < width) then
    none
  else
    some (UInt8.ofNat value, rest)

/-- Reads an address of version four. -/
def ipv4? (text : List Char) : Option (Ipv4Address × List Char) := do
  let (a, rest) ← octet? text
  let (b, rest) ← octet? (← char? '.' rest)
  let (c, rest) ← octet? (← char? '.' rest)
  let (d, rest) ← octet? (← char? '.' rest)
  some (⟨a, b, c, d⟩, rest)

/-- Reads a group of an address of version six: at most four digits. -/
def group? (text : List Char) : Option (UInt16 × List Char) := do
  let (value, rest) ← number? 16 65536 text
  if 4 < text.length - rest.length then none else some (UInt16.ofNat value, rest)

/-- What stands before a group: a colon, unless it is the first one. -/
def separated? (first : Bool) (text : List Char) : Option (List Char) :=
  if first then some text else char? ':' text

/-- Reads groups as long as they follow one another, at most a given number.
An address of version four counts as two groups and ends them.  The answer says
whether it was there. -/
def groups (first : Bool) : Nat → List Char → List UInt16 × Bool × List Char
  | 0, text => ([], false, text)
  | left + 1, text =>
      let embedded :=
        if left = 0 then none else (separated? first text).bind ipv4?
      match embedded with
      | some (address, rest) => (address.groups, true, rest)
      | none =>
          match (separated? first text).bind group? with
          | none => ([], false, text)
          | some (group, rest) =>
              let (more, embedded, rest) := groups false left rest
              (group :: more, embedded, rest)

/-- Reads an address of version six. -/
def ipv6? (text : List Char) : Option (List UInt16 × List Char) :=
  let (front, embedded, rest) := groups true 8 text
  if front.length = 8 then
    some (front, rest)
  else if embedded then
    none
  else do
    let rest ← char? ':' (← char? ':' rest)
    let (back, _, rest) := groups true (7 - front.length) rest
    some (front ++ List.replicate (8 - front.length - back.length) 0 ++ back, rest)

/-- Reads a port, after its colon. -/
def port? (text : List Char) : Option (UInt16 × List Char) := do
  let (value, rest) ← number? 10 65536 (← char? ':' text)
  some (UInt16.ofNat value, rest)

/-- Reads a zone, after its percent sign; zone zero if there is none. -/
def zone (text : List Char) : UInt32 × List Char :=
  match (char? '%' text).bind (number? 10 (Nat.pow 2 32)) with
  | some (value, rest) => (UInt32.ofNat value, rest)
  | none => (0, text)

/-- Reads an address of version four with its port. -/
def readV4? (text : List Char) : Option (SocketAddress × List Char) := do
  let (address, rest) ← ipv4? text
  let (port, rest) ← port? rest
  some (.v4 address port, rest)

/-- Reads an address of version six, in brackets, with its port. -/
def readV6? (text : List Char) : Option (SocketAddress × List Char) := do
  let (groups, rest) ← ipv6? (← char? '[' text)
  let (zone, rest) := zone rest
  let (port, rest) ← port? (← char? ']' rest)
  some (.v6 groups zone port, rest)

/-- The address that a text writes, from end to end. -/
def ofText? (text : String) : Option SocketAddress :=
  match (readV4? text.toList).or (readV6? text.toList) with
  | some (address, []) => some address
  | _ => none

/-- The colon form of some groups. -/
def groupsText (groups : List UInt16) : List Char :=
  [':'].intercalate (groups.map fun group => Text.hexDigits group.toNat)

/-- How many zero groups stand at the start. -/
def zeroRun (groups : List UInt16) : Nat :=
  (groups.takeWhile (· = 0)).length

/-- The position and length of the first longest run of zero groups. -/
def longestZeros (groups : List UInt16) : Nat × Nat :=
  (List.range groups.length).foldl
    (fun best position =>
      let length := zeroRun (groups.drop position)
      if best.2 < length then (position, length) else best)
    (0, 0)

/-- The written form of an address of version six. -/
def ipv6Text (groups : List UInt16) : List Char :=
  match groups with
  | [0, 0, 0, 0, 0, 0xFFFF, high, low] =>
      "::ffff:".toList ++ (Ipv4Address.ofGroups high low).text
  | _ =>
      let (position, length) := longestZeros groups
      if 1 < length then
        groupsText (groups.take position) ++ [':', ':']
          ++ groupsText (groups.drop (position + length))
      else
        groupsText groups

/-- The written form of a socket address. -/
def text : SocketAddress → String
  | .v4 address port =>
      String.ofList (address.text ++ ':' :: Nat.toDigits 10 port.toNat)
  | .v6 groups zone port =>
      let zoneText := if zone = 0 then [] else '%' :: Nat.toDigits 10 zone.toNat
      String.ofList
        ('[' :: ipv6Text groups ++ zoneText ++ ']' :: ':' :: Nat.toDigits 10 port.toNat)

end SocketAddress

end RemoteInput
