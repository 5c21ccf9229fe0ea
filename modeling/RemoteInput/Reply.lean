import RemoteInput.Text.Quoted

/-!
# Replies

Every request line gets one reply line: `OK`, `OK` with a payload, or `ERR`
with the code of a refusal.  Reading a reply back takes the rendered form, and
one blank form more: `OK` followed by a space and nothing.
-/

namespace RemoteInput

/-- Why a request is refused. -/
inductive Refusal where
  | emptyCommand
  | unknownCommand
  | invalidArguments
  | invalidCoordinates
  | invalidPressure
  | invalidButtons
  | invalidKeycode
  | invalidBase64
  | inputNotSupported
  | injectFailed
  | textNotSupported
  | clipboardUnavailable
  | clipboardSetFailed
  deriving DecidableEq, Repr

namespace Refusal

/-- The code of a refusal on the wire. -/
def code : Refusal → String
  | .emptyCommand => "EMPTY_COMMAND"
  | .unknownCommand => "UNKNOWN_COMMAND"
  | .invalidArguments => "INVALID_ARGS"
  | .invalidCoordinates => "INVALID_COORDS"
  | .invalidPressure => "INVALID_PRESSURE"
  | .invalidButtons => "INVALID_BUTTONS"
  | .invalidKeycode => "INVALID_KEYCODE"
  | .invalidBase64 => "INVALID_BASE64"
  | .inputNotSupported => "INPUT_NOT_SUPPORTED"
  | .injectFailed => "INJECT_FAILED"
  | .textNotSupported => "TEXT_NOT_SUPPORTED"
  | .clipboardUnavailable => "CLIPBOARD_UNAVAILABLE"
  | .clipboardSetFailed => "CLIPBOARD_SET_FAILED"

/-- All refusals, in the order of the protocol. -/
def all : List Refusal :=
  [.emptyCommand, .unknownCommand, .invalidArguments, .invalidCoordinates,
    .invalidPressure, .invalidButtons, .invalidKeycode, .invalidBase64,
    .inputNotSupported, .injectFailed, .textNotSupported, .clipboardUnavailable,
    .clipboardSetFailed]

/-- The refusal with a given code. -/
def ofCode? (code : String) : Option Refusal :=
  all.find? fun refusal => refusal.code = code

end Refusal

/-- The answer to a request. -/
inductive Reply where
  | ok (payload : Option String)
  | err (refusal : Refusal)
  deriving DecidableEq, Repr

namespace Reply

/-- Success without a payload. -/
def done : Reply := .ok none

/-- Success with a payload; an empty payload is none. -/
def okWith (payload : String) : Reply :=
  if payload = "" then done else .ok (some payload)

/-- The reply to a command that only succeeds or is refused. -/
def ofResult : Except Refusal Unit → Reply
  | .ok () => done
  | .error refusal => .err refusal

/-- The reply line, without its line feed. -/
def render : Reply → String
  | .ok none => "OK"
  | .ok (some payload) => "OK " ++ payload
  | .err refusal => "ERR " ++ refusal.code

/-- Why a line is no reply. -/
inductive ReadError where
  | missingStatus (line : String)
  | unknownCode (code : String)
  deriving DecidableEq, Repr

/-- The wording of a line that is no reply. -/
def ReadError.message : ReadError → String
  | .missingStatus line => "response must start with OK or ERR: " ++ Text.quoted line
  | .unknownCode code => "unknown error code: " ++ code

/-- Carriage return or line feed. -/
def isLineEnd (c : Char) : Bool :=
  c = '\r' || c = '\n'

/-- Drops the carriage returns and line feeds at the end. -/
def stripLineEnds (line : List Char) : List Char :=
  (line.reverse.dropWhile isLineEnd).reverse

/-- The refusal with a given code, or the fault of the line that held it. -/
def readCode (code : String) : Except ReadError Refusal :=
  match Refusal.ofCode? code with
  | some refusal => .ok refusal
  | none => .error (.unknownCode code)

/-- Reads a reply line whose ends are stripped. -/
def readStripped : List Char → Except ReadError Reply
  | ['O', 'K'] => .ok done
  | 'O' :: 'K' :: ' ' :: payload => .ok (okWith (String.ofList payload))
  | 'E' :: 'R' :: 'R' :: ' ' :: code => (readCode (String.ofList code)).map .err
  | line => .error (.missingStatus (String.ofList line))

/-- Reads a reply line. -/
def read (line : String) : Except ReadError Reply :=
  readStripped (stripLineEnds line.toList)

end Reply

end RemoteInput
