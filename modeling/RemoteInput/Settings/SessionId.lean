import RemoteInput.Text.Numeral
import RemoteInput.Text.Quoted

/-!
# Session ids

Several servers may run side by side; a session id of thirty-one bits tells
them apart.  It is written with eight lower-case hexadecimal digits and read
from hexadecimal digits of either case, with or without the usual mark for
them.  The name of the local socket of a server is derived from its session id.
-/

namespace RemoteInput

/-- A session id. -/
structure SessionId where
  value : Nat
  fits : value < Nat.pow 2 31
  deriving DecidableEq, Repr

namespace SessionId

/-- Why a text or number is no session id. -/
inductive ReadError where
  | notHexadecimal (text : String)
  | outOfRange (value : Nat)
  deriving DecidableEq, Repr

/-- The wording of a text or number that is no session id. -/
def ReadError.message : ReadError → String
  | .notHexadecimal text => "scid must be hexadecimal, got " ++ Text.quoted text
  | .outOfRange value =>
      "scid must fit in 31 bits, got 0x" ++ String.ofList (Text.hexDigits value)

/-- The session id of a number. -/
def ofNat (value : Nat) : Except ReadError SessionId :=
  if fits : value < Nat.pow 2 31 then .ok ⟨value, fits⟩ else .error (.outOfRange value)

/-- Drops the mark of a hexadecimal number. -/
def dropMark : List Char → List Char
  | '0' :: 'x' :: digits => digits
  | '0' :: 'X' :: digits => digits
  | digits => digits

/-- Reads a session id.  Digits beyond sixty-four bits are not taken for a
number. -/
def ofText (text : String) : Except ReadError SessionId :=
  match Text.unsigned 16 (Nat.pow 2 64) (dropMark (Text.trim text.toList)) with
  | .ok value => ofNat value
  | .error _ => .error (.notHexadecimal text)

/-- Reads an option that names a session id or, as `-1`, none. -/
def ofOption (text : String) : Except ReadError (Option SessionId) :=
  let trimmed := String.ofList (Text.trim text.toList)
  if trimmed = "-1" then .ok none else (ofText trimmed).map some

/-- Eight hexadecimal digits. -/
def text (id : SessionId) : String :=
  String.ofList (Text.hexPadded 8 id.value)

end SessionId

/-- The name of the local socket of a server. -/
def socketName : Option SessionId → String
  | none => "touchbridge"
  | some id => "touchbridge_" ++ id.text

/-- The path of a local socket on Linux: a leading NUL selects the namespace of
sockets that are no files.  Systems without that namespace are left out. -/
def socketPath (name : String) : String :=
  String.ofList (Char.ofNat 0 :: name.toList)

end RemoteInput
