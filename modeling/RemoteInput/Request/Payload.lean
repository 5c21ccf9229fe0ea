import RemoteInput.Reply
import RemoteInput.Text.Base64
import RemoteInput.Text.Blank
import RemoteInput.Text.Utf8

/-!
# Text payloads

Text that may hold line breaks crosses the line protocol as the base64 of its
UTF-8 bytes.  A payload is read with the blanks around it dropped, and bytes
that are not UTF-8 become replacement characters.
-/

namespace RemoteInput

namespace Payload

/-- The payload of a text. -/
def encode (text : String) : String :=
  String.ofList (Base64.encode (Utf8.encode text.toList))

/-- The text of a payload. -/
def decode (payload : String) : Except Refusal String :=
  match Base64.decode? (Text.trim payload.toList) with
  | some bytes => .ok (String.ofList (Utf8.decodeLossy bytes))
  | none => .error .invalidBase64

end Payload

end RemoteInput
