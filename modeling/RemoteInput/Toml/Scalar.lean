import RemoteInput.Text.Numeral
import RemoteInput.Toml.Value

/-!
# Scalars of TOML

Readers for strings, numbers, dates and Booleans.  Each takes the text from its
first character on and gives the value together with the text after it, or
nothing if the text does not begin with a well-formed scalar of its kind.
-/

namespace RemoteInput

namespace Toml

/-- A reader takes a value off the front of a text. -/
abbrev Reader (α : Type) := List Char → Option (α × List Char)

/-- Space or tab. -/
def isSpace (c : Char) : Bool :=
  c = ' ' || c = '\t'

/-- A character that may stand in a comment or a string: a tab or no control. -/
def isPlain (c : Char) : Bool :=
  c = '\t' || (0x20 ≤ c.toNat && c.toNat ≠ 0x7F)

/-- Drops spaces and tabs. -/
def skipSpace (text : List Char) : List Char :=
  text.dropWhile isSpace

/-- Takes a given text off the front. -/
def literal? : List Char → List Char → Option (List Char)
  | [], text => some text
  | c :: rest, d :: text => if c = d then literal? rest text else none
  | _ :: _, [] => none

/-! ## Strings -/

/-- Where the reader of a string with escapes is. -/
inductive StringState where
  | plain
  /-- After a backslash. -/
  | escape
  /-- Inside the digits of a code point: how many are to come, and its value. -/
  | code (left value : Nat)
  /-- After a backslash and spaces, before the line feed that they must precede. -/
  | lineEnd
  /-- After such a line feed, in the blank text that it drops. -/
  | skipping
  deriving DecidableEq, Repr

/-- The character of a short escape. -/
def shortEscape? : Char → Option Char
  | 'b' => some '\x08'
  | 't' => some '\t'
  | 'n' => some '\n'
  | 'f' => some '\x0c'
  | 'r' => some '\r'
  | '"' => some '"'
  | '\\' => some '\\'
  | _ => none

/-- The character with a code point, if there is one. -/
def scalar? (code : Nat) : Option Char :=
  if code < 0xD800 || (0xDFFF < code && code < 0x110000) then some (Char.ofNat code) else none

/-- Puts a character before a string. -/
def prepend (c : Char) : Option (List Char × List Char) → Option (List Char × List Char)
  | some (content, rest) => some (c :: content, rest)
  | none => none

/-- Reads a string with escapes on one line, up to its closing quote. -/
def basicString : StringState → Reader (List Char)
  | _, [] => none
  | .plain, '"' :: rest => some ([], rest)
  | .plain, '\\' :: rest => basicString .escape rest
  | .plain, c :: rest => if isPlain c then prepend c (basicString .plain rest) else none
  | .escape, 'u' :: rest => basicString (.code 4 0) rest
  | .escape, 'U' :: rest => basicString (.code 8 0) rest
  | .escape, c :: rest =>
      match shortEscape? c with
      | some escaped => prepend escaped (basicString .plain rest)
      | none => none
  | .code left value, c :: rest =>
      match Text.digitValue? 16 c with
      | none => none
      | some digit =>
          if left = 1 then
            match scalar? (value * 16 + digit) with
            | some escaped => prepend escaped (basicString .plain rest)
            | none => none
          else
            basicString (.code (left - 1) (value * 16 + digit)) rest
  | .lineEnd, _ :: _ => none
  | .skipping, _ :: _ => none

/-- Reads a string with escapes on several lines, up to its closing quotes.  Two
quotes may stand directly before the closing ones. -/
def basicLines : StringState → Reader (List Char)
  | _, [] => none
  | .plain, '"' :: '"' :: '"' :: '"' :: '"' :: rest => some (['"', '"'], rest)
  | .plain, '"' :: '"' :: '"' :: '"' :: rest => some (['"'], rest)
  | .plain, '"' :: '"' :: '"' :: rest => some ([], rest)
  | .plain, '\r' :: '\n' :: rest => prepend '\n' (basicLines .plain rest)
  | .plain, '\\' :: rest => basicLines .escape rest
  | .plain, c :: rest =>
      if isPlain c || c = '\n' then prepend c (basicLines .plain rest) else none
  | .escape, 'u' :: rest => basicLines (.code 4 0) rest
  | .escape, 'U' :: rest => basicLines (.code 8 0) rest
  | .escape, '\n' :: rest => basicLines .skipping rest
  | .escape, '\r' :: '\n' :: rest => basicLines .skipping rest
  | .escape, c :: rest =>
      if isSpace c then
        basicLines .lineEnd rest
      else
        match shortEscape? c with
        | some escaped => prepend escaped (basicLines .plain rest)
        | none => none
  | .code left value, c :: rest =>
      match Text.digitValue? 16 c with
      | none => none
      | some digit =>
          if left = 1 then
            match scalar? (value * 16 + digit) with
            | some escaped => prepend escaped (basicLines .plain rest)
            | none => none
          else
            basicLines (.code (left - 1) (value * 16 + digit)) rest
  | .lineEnd, '\n' :: rest => basicLines .skipping rest
  | .lineEnd, '\r' :: '\n' :: rest => basicLines .skipping rest
  | .lineEnd, c :: rest => if isSpace c then basicLines .lineEnd rest else none
  | .skipping, '\n' :: rest => basicLines .skipping rest
  | .skipping, '\r' :: '\n' :: rest => basicLines .skipping rest
  | .skipping, '"' :: '"' :: '"' :: '"' :: '"' :: rest => some (['"', '"'], rest)
  | .skipping, '"' :: '"' :: '"' :: '"' :: rest => some (['"'], rest)
  | .skipping, '"' :: '"' :: '"' :: rest => some ([], rest)
  | .skipping, '\\' :: rest => basicLines .escape rest
  | .skipping, c :: rest =>
      if isSpace c then basicLines .skipping rest
      else if isPlain c then prepend c (basicLines .plain rest)
      else none

/-- Reads a string without escapes on one line, up to its closing quote. -/
def literalString : Reader (List Char)
  | [] => none
  | '\x27' :: rest => some ([], rest)
  | c :: rest => if isPlain c then prepend c (literalString rest) else none

/-- Reads a string without escapes on several lines, up to its closing quotes.
Two quotes may stand directly before the closing ones. -/
def literalLines : Reader (List Char)
  | [] => none
  | '\x27' :: '\x27' :: '\x27' :: '\x27' :: '\x27' :: rest => some (['\x27', '\x27'], rest)
  | '\x27' :: '\x27' :: '\x27' :: '\x27' :: rest => some (['\x27'], rest)
  | '\x27' :: '\x27' :: '\x27' :: rest => some ([], rest)
  | '\r' :: '\n' :: rest => prepend '\n' (literalLines rest)
  | c :: rest => if isPlain c || c = '\n' then prepend c (literalLines rest) else none

/-- Drops the line end that may follow the opening quotes of several lines. -/
def skipLineEnd : List Char → List Char
  | '\n' :: rest => rest
  | '\r' :: '\n' :: rest => rest
  | text => text

/-- Reads a string on one line, with or without escapes. -/
def lineString : Reader (List Char)
  | '"' :: rest => basicString .plain rest
  | '\x27' :: rest => literalString rest
  | _ => none

/-- Reads a string of any of the four kinds. -/
def string : Reader (List Char)
  | '"' :: '"' :: '"' :: rest => basicLines .plain (skipLineEnd rest)
  | '\x27' :: '\x27' :: '\x27' :: rest => literalLines (skipLineEnd rest)
  | text => lineString text

/-! ## Numbers -/

/-- Reads the digits after a first one; single underscores may stand between
digits, and are dropped. -/
def moreDigits (isDigit : Char → Bool) : Reader (List Char)
  | [] => some ([], [])
  | '_' :: c :: rest => if isDigit c then prepend c (moreDigits isDigit rest) else none
  | '_' :: [] => none
  | c :: rest =>
      if isDigit c then prepend c (moreDigits isDigit rest) else some ([], c :: rest)

/-- Reads one or more digits. -/
def digits (isDigit : Char → Bool) : Reader (List Char)
  | c :: rest => if isDigit c then prepend c (moreDigits isDigit rest) else none
  | [] => none

/-- Reads an optional sign; the answer is whether it is a minus. -/
def sign : List Char → Bool × List Char
  | '-' :: rest => (true, rest)
  | '+' :: rest => (false, rest)
  | text => (false, text)

/-- Reads decimal digits without a leading zero. -/
def wholeDigits : Reader (List Char)
  | '0' :: rest => some (['0'], rest)
  | text => digits Char.isDigit text

/-- Reads a number in a base other than ten, after its mark. -/
def based (base : Nat) (text : List Char) : Option (Value × List Char) := do
  let (digits, rest) ← digits (fun c => (Text.digitValue? base c).isSome) text
  let value ← Text.digitsValue? base digits
  if value < Nat.pow 2 63 then some (.integer value, rest) else none

/-- Reads a decimal integer of sixty-four bits. -/
def decimalInteger (text : List Char) : Option (Value × List Char) := do
  let (negative, rest) := sign text
  let (digits, rest) ← wholeDigits rest
  let magnitude ← Text.digitsValue? 10 digits
  let value := if negative then -(magnitude : Int) else magnitude
  if -0x8000000000000000 ≤ value && value < 0x8000000000000000 then some (.integer value, rest) else none

/-- Reads an integer. -/
def integer : Reader Value
  | '0' :: 'x' :: rest => based 16 rest
  | '0' :: 'o' :: rest => based 8 rest
  | '0' :: 'b' :: rest => based 2 rest
  | text => decimalInteger text

/-- Reads an exponent, if there is one: its digits and whether it is negative. -/
def exponentPart : List Char → Option (Option (Bool × List Char) × List Char)
  | c :: rest =>
      if c = 'e' || c = 'E' then do
        let (negative, rest) := sign rest
        let (digits, rest) ← digits Char.isDigit rest
        some (some (negative, digits), rest)
      else
        some (none, c :: rest)
  | [] => some (none, [])

/-- A decimal value is too large for a double: half a unit beyond the largest
one, or more. -/
def exceedsDouble (whole fraction : List Char) (exponent : Int) : Bool :=
  let digits := (whole ++ fraction).dropWhile (· = '0')
  let coefficient := (Text.digitsValue? 10 digits).getD 0
  let scale := exponent - fraction.length
  let order := digits.length + scale
  if digits.isEmpty || order < 300 then false
  else if 320 < order then true
  else
    let limit := Nat.pow 2 1024 - Nat.pow 2 970
    if 0 ≤ scale then limit ≤ coefficient * Nat.pow 10 scale.toNat
    else limit * Nat.pow 10 (-scale).toNat ≤ coefficient

/-- Reads a float in digits: it has a fraction, an exponent or both, and is no
larger than a double can be. -/
def decimalFloat (text : List Char) : Option (Value × List Char) := do
  let (negative, rest) := sign text
  let (whole, rest) ← wholeDigits rest
  let (fraction, rest, pointed) ←
    match rest with
    | '.' :: rest => (digits Char.isDigit rest).map fun read => (read.1, read.2, true)
    | rest => some ([], rest, false)
  let (exponent, rest) ← exponentPart rest
  if !pointed && exponent.isNone then
    none
  else
    let power : Int :=
      match exponent with
      | none => 0
      | some (below, digits) =>
          let magnitude := (Text.exponentDigits? digits).getD 0
          if below then -(magnitude : Int) else magnitude
    if !negative && exceedsDouble whole fraction power then none else some (.float, rest)

/-- Reads one of the floats that have names. -/
def namedFloat (text : List Char) : Option (Value × List Char) :=
  let (_, rest) := sign text
  ((literal? "inf".toList rest).or (literal? "nan".toList rest)).map fun rest => (.float, rest)

/-- Reads a float. -/
def float (text : List Char) : Option (Value × List Char) :=
  (decimalFloat text).or (namedFloat text)

/-! ## Dates and times -/

/-- Reads a number of exactly some digits, within bounds. -/
def fixed (width least most : Nat) (text : List Char) : Option (Nat × List Char) := do
  let digits := text.take width
  if digits.length = width && digits.all Char.isDigit then
    let value ← Text.digitsValue? 10 digits
    if least ≤ value && value ≤ most then some (value, text.drop width) else none
  else
    none

/-- The number of days of a month. -/
def daysOf (year month : Nat) : Nat :=
  let leap := year % 4 = 0 && (year % 100 ≠ 0 || year % 400 = 0)
  if month = 2 then (if leap then 29 else 28)
  else if month = 4 || month = 6 || month = 9 || month = 11 then 30
  else 31

/-- Reads a day. -/
def day (text : List Char) : Option (List Char) := do
  let (year, rest) ← fixed 4 0 9999 text
  let (month, rest) ← fixed 2 1 12 (← literal? ['-'] rest)
  let (_, rest) ← fixed 2 1 (daysOf year month) (← literal? ['-'] rest)
  some rest

/-- Drops a fraction of a second, if there is one. -/
def skipFraction (text : List Char) : List Char :=
  match text with
  | '.' :: c :: rest => if c.isDigit then rest.dropWhile Char.isDigit else text
  | _ => text

/-- Reads a time of day. -/
def time (text : List Char) : Option (List Char) := do
  let (_, rest) ← fixed 2 0 23 text
  let (_, rest) ← fixed 2 0 59 (← literal? [':'] rest)
  let (_, rest) ← fixed 2 0 60 (← literal? [':'] rest)
  some (skipFraction rest)

/-- Drops a time zone, if there is one. -/
def skipZone (text : List Char) : List Char :=
  match text with
  | c :: rest =>
      if c = 'Z' || c = 'z' then rest
      else if c = '+' || c = '-' then
        let offset := do
          let (_, rest) ← fixed 2 0 23 rest
          let (_, rest) ← fixed 2 0 59 (← literal? [':'] rest)
          some rest
        offset.getD text
      else text
  | [] => []

/-- Drops the time that may follow a day, after one of the marks for it. -/
def skipTime (text : List Char) : List Char :=
  match text with
  | c :: rest =>
      if c = 'T' || c = 't' || c = ' ' then
        match time rest with
        | some rest => skipZone rest
        | none => text
      else text
  | [] => []

/-- Reads a date, a time, or both. -/
def date (text : List Char) : Option (Value × List Char) :=
  match day text with
  | some rest => some (.date, skipTime rest)
  | none => (time text).map fun rest => (.date, rest)

/-- Reads a Boolean. -/
def boolean (text : List Char) : Option (Value × List Char) :=
  match literal? "true".toList text with
  | some rest => some (.boolean true, rest)
  | none => (literal? "false".toList text).map fun rest => (.boolean false, rest)

/-- Reads a scalar of any kind; its first character tells which readers may
apply. -/
def scalar (text : List Char) : Option (Value × List Char) :=
  match text with
  | [] => none
  | c :: _ =>
      if c = '"' || c = '\x27' then
        (string text).map fun read => (.text (String.ofList read.1), read.2)
      else if c.isDigit || c = '+' || c = '-' then
        ((date text).or (float text)).or (integer text)
      else if c = 't' || c = 'f' then
        boolean text
      else
        namedFloat text

end Toml

end RemoteInput
