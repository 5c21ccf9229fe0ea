import RemoteInput.Text.Hidden

/-!
# Quoted text

Messages quote what a peer or a user wrote.  A quoted text stands between
double quotes; a quote, a backslash and the four common controls have short
escapes, and every other hidden character is written by its code point in
lower-case hexadecimal.
-/

namespace RemoteInput

namespace Text

/-- Lower-case hexadecimal digits of a number, without leading zeros. -/
def hexDigits (value : Nat) : List Char :=
  Nat.toDigits 16 value

/-- Hexadecimal digits of a number, filled with zeros to a least width. -/
def hexPadded (width value : Nat) : List Char :=
  let digits := hexDigits value
  List.replicate (width - digits.length) '0' ++ digits

/-- The text of one character between quotes. -/
def quoteChar (c : Char) : List Char :=
  if c = '"' then ['\\', '"']
  else if c = '\\' then ['\\', '\\']
  else if c = '\t' then ['\\', 't']
  else if c = '\r' then ['\\', 'r']
  else if c = '\n' then ['\\', 'n']
  else if c.toNat = 0 then ['\\', '0']
  else if isHidden c then
    ['\\', 'u', '\x7b'] ++ hexDigits c.toNat ++ ['\x7d']
  else [c]

/-- A text between double quotes, hidden characters escaped. -/
def quoted (text : String) : String :=
  String.ofList ('"' :: text.toList.flatMap quoteChar ++ ['"'])

end Text

end RemoteInput
