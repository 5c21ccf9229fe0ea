import RemoteInput.Console
import RemoteInput.Stream.LineReader
import RemoteInput.Text.Quoted

/-!
# Notes about received lines

The log shows the beginning of a received line, as text and as bytes, and says
how long the line is if that is not all of it.
-/

namespace RemoteInput

namespace Preview

/-- How many characters are shown. -/
def textLimit : Nat := 80

/-- How many bytes are shown. -/
def byteLimit : Nat := 64

/-- The beginning of a line. -/
def text (line : List Char) : String :=
  if line.length ≤ textLimit then
    String.ofList line
  else
    String.ofList (line.take textLimit) ++ "...(len=" ++ RemoteInput.Text.decimal line.length
      ++ ")"

/-- The beginning of the bytes of a line, in hexadecimal. -/
def hex (bytes : List UInt8) : String :=
  let digits := (bytes.take byteLimit).map fun byte => Text.hexPadded 2 byte.toNat
  let shown := String.ofList ([' '].intercalate digits)
  if bytes.length ≤ byteLimit then
    shown
  else
    shown ++ "...len=" ++ Text.decimal bytes.length

/-- The note of a received line. -/
def received (line : String) : Note :=
  let bytes := Utf8.encode line.toList
  { severity := .debug
    message := "received line"
    fields :=
      [("chars", .number line.length), ("bytes", .number bytes.length),
        ("text", .text (text line.toList)), ("hex", .text (hex bytes))] }

/-- The note of the end of a stream. -/
def ended : Note :=
  { severity := .debug, message := "control stream reached EOF" }

end Preview

/-- The note that an answer of a line reader gives rise to. -/
def receiptNote : Receipt → Option Note
  | .line line => some (Preview.received line)
  | .endOfStream => some Preview.ended
  | _ => none

end RemoteInput
