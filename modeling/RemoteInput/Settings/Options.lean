import RemoteInput.Settings

/-!
# The command line

The command line holds options with one value each and, at most once, the
version of the client.  The words are taken from left to right; the value of an
option is judged when the next option or version follows, and the first fault
decides.  An option that the command line leaves out may be set by a variable of
the environment.
-/

namespace RemoteInput

/-- What the command line and the environment set, option by option. -/
structure Options where
  clientVersion : Option String := none
  config : Option String := none
  sessionId : Option String := none
  tunnelForward : Option Bool := none
  tcp : Option SocketAddress := none
  display : Option DisplayId := none
  powerOn : Option Bool := none
  control : Option Bool := none
  sendDummyByte : Option Bool := none
  verbosity : Option Verbosity := none
  maxLineLength : Option Nat := none
  deriving DecidableEq, Repr

/-- Why the command line gives no options: a fault, or a request for a text. -/
inductive UsageError where
  | unknownArgument
  | invalidValue
  | valueValidation
  | argumentConflict
  | tooManyValues
  | displayHelp
  | displayVersion
  deriving DecidableEq, Repr

namespace UsageError

/-- The wording of a usage error. -/
def message : UsageError → String
  | .unknownArgument => "an argument is not known"
  | .invalidValue => "a value is missing or not one of the possible values"
  | .valueValidation => "a value cannot be read"
  | .argumentConflict => "an option is given twice"
  | .tooManyValues => "a value is given to an option that takes none"
  | .displayHelp => "help is asked for"
  | .displayVersion => "the version is asked for"

/-- The exit code after a usage error. -/
def exitCode : UsageError → Nat
  | .displayHelp | .displayVersion => 0
  | _ => 2

end UsageError

/-- The options that take a value. -/
inductive OptionName where
  | config
  | sessionId
  | tunnelForward
  | tcp
  | display
  | powerOn
  | control
  | sendDummyByte
  | verbosity
  | maxLineLength
  deriving DecidableEq, Repr

namespace OptionName

/-- All options, in the order in which their variables are looked at. -/
def all : List OptionName :=
  [.config, .sessionId, .tunnelForward, .tcp, .display, .powerOn, .control,
    .sendDummyByte, .verbosity, .maxLineLength]

/-- The name of an option on the command line, without its dashes. -/
def word : OptionName → String
  | .config => "config"
  | .sessionId => "scid"
  | .tunnelForward => "tunnel-forward"
  | .tcp => "tcp"
  | .display => "display-id"
  | .powerOn => "power-on"
  | .control => "control"
  | .sendDummyByte => "send-dummy-byte"
  | .verbosity => "log-level"
  | .maxLineLength => "max-line-length"

/-- The environment variable of an option, if it has one. -/
def environmentName? : OptionName → Option String
  | .config => some "TOUCHBRIDGE_CONFIG"
  | .sessionId => some "TOUCHBRIDGE_SCID"
  | .tunnelForward => some "TOUCHBRIDGE_TUNNEL_FORWARD"
  | .tcp => some "TOUCHBRIDGE_TCP"
  | .display => some "TOUCHBRIDGE_DISPLAY_ID"
  | .powerOn => some "TOUCHBRIDGE_POWER_ON"
  | .control => some "TOUCHBRIDGE_CONTROL"
  | .sendDummyByte => some "TOUCHBRIDGE_SEND_DUMMY_BYTE"
  | .verbosity => some "TOUCHBRIDGE_LOG_LEVEL"
  | .maxLineLength => none

/-- The option takes the next word as its value whatever it begins with. -/
def takesAnyWord (name : OptionName) : Bool :=
  name = .sessionId

/-- The forms of the command line. -/
def help : String :=
  "usage: [OPTION VALUE]... [CLIENT_VERSION]\noptions:"
    ++ String.join (all.map fun name => " --" ++ name.word)

/-- The option with a name. -/
def ofWord? (word : String) : Option OptionName :=
  all.find? fun name => name.word = word

end OptionName

namespace Options

/-- An option was set. -/
def isSet (options : Options) : OptionName → Bool
  | .config => options.config.isSome
  | .sessionId => options.sessionId.isSome
  | .tunnelForward => options.tunnelForward.isSome
  | .tcp => options.tcp.isSome
  | .display => options.display.isSome
  | .powerOn => options.powerOn.isSome
  | .control => options.control.isSome
  | .sendDummyByte => options.sendDummyByte.isSome
  | .verbosity => options.verbosity.isSome
  | .maxLineLength => options.maxLineLength.isSome

/-- Reads a truth value. -/
def truth (value : String) : Except UsageError Bool :=
  if value = "true" then .ok true
  else if value = "false" then .ok false
  else .error .invalidValue

/-- Reads the path of a file. -/
def path (value : String) : Except UsageError String :=
  if value = "" then .error .invalidValue else .ok value

/-- Accepts a value that was read, or finds it at fault. -/
def validated {α : Type} : Option α → Except UsageError α
  | some value => .ok value
  | none => .error .valueValidation

/-- Reads the number of a display. -/
def displayNumber? (value : String) : Option DisplayId := do
  let number ← Text.int64? value.toList
  if 0 ≤ number ∧ number < 0x100000000 then some ⟨UInt32.ofNat number.toNat⟩ else none

/-- Reads a number of bytes. -/
def size? (value : String) : Option Nat :=
  (Text.unsigned 10 (Nat.pow 2 64) value.toList).toOption

/-- Sets an option to the value that a text writes. -/
def set (options : Options) (name : OptionName) (value : String) :
    Except UsageError Options := do
  match name with
  | .config => return { options with config := some (← path value) }
  | .sessionId => return { options with sessionId := some value }
  | .tunnelForward => return { options with tunnelForward := some (← truth value) }
  | .tcp => return { options with tcp := some (← validated (SocketAddress.ofText? value)) }
  | .display => return { options with display := some (← validated (displayNumber? value)) }
  | .powerOn => return { options with powerOn := some (← truth value) }
  | .control => return { options with control := some (← truth value) }
  | .sendDummyByte => return { options with sendDummyByte := some (← truth value) }
  | .verbosity =>
      return { options with verbosity := some (← validated (Verbosity.ofText? value)) }
  | .maxLineLength => return { options with maxLineLength := some (← validated (size? value)) }

/-- Sets an option that must not be set yet. -/
def setOnce (options : Options) (name : OptionName) (value : String) :
    Except UsageError Options :=
  if options.isSet name then .error .argumentConflict else options.set name value

/-- What was taken off the command line and not yet judged. -/
inductive Pending where
  | nothing
  /-- An option that still needs its value. -/
  | wanting (name : OptionName)
  | option (name : OptionName) (value : String)
  | version (value : String)
  deriving DecidableEq, Repr

/-- The command line under way. -/
structure Scan where
  options : Options
  pending : Pending
  /-- Two dashes came by: every further word stands for itself. -/
  plain : Bool
  /-- The version of the client came by. -/
  versioned : Bool
  deriving DecidableEq, Repr

namespace Scan

/-- The command line before its first word. -/
def start : Scan :=
  { options := {}, pending := .nothing, plain := false, versioned := false }

/-- Judges what is pending. -/
def settle (scan : Scan) : Except UsageError Scan :=
  match scan.pending with
  | .nothing => .ok scan
  | .wanting _ => .error .invalidValue
  | .option name value => do
      return { scan with options := ← scan.options.setOnce name value, pending := .nothing }
  | .version value =>
      .ok
        { scan with
          options := { scan.options with clientVersion := some value }
          pending := .nothing }

/-- Takes a word that stands for itself. -/
def takePlain (scan : Scan) (word : String) : Except UsageError Scan :=
  if scan.versioned then
    .error .unknownArgument
  else do
    return { ← scan.settle with pending := .version word, versioned := true }

/-- Takes an option, given by its name and perhaps a value. -/
def takeNamed (scan : Scan) (name : String) (value : Option String) : Except UsageError Scan :=
  match OptionName.ofWord? name, value with
  | some option, some value => do
      let scan ← scan.settle
      return { scan with options := ← scan.options.setOnce option value }
  | some option, none => do
      return { ← scan.settle with pending := .wanting option }
  | none, value =>
      let request :=
        if name = "help" then some UsageError.displayHelp
        else if name = "version" then some UsageError.displayVersion
        else none
      match request, value with
      | some request, none => do
          let _ ← scan.settle
          .error request
      | some _, some _ => .error .tooManyValues
      | none, _ => .error .unknownArgument

/-- Takes a word of one dash and letters; only the first letter counts. -/
def takeLetters (scan : Scan) (letters : List Char) : Except UsageError Scan :=
  match letters with
  | 'h' :: _ => do
      let _ ← scan.settle
      .error .displayHelp
  | 'V' :: _ => do
      let _ ← scan.settle
      .error .displayVersion
  | _ => .error .unknownArgument

/-- Takes a word that begins with two dashes, without them. -/
def takeLong (scan : Scan) (body : List Char) : Except UsageError Scan :=
  let name := String.ofList (body.takeWhile (· ≠ '='))
  match body.dropWhile (· ≠ '=') with
  | [] => scan.takeNamed name none
  | _ :: value => scan.takeNamed name (some (String.ofList value))

/-- Takes a word that is not the value of an option that takes any word. -/
def takeWord (scan : Scan) (word : String) : Except UsageError Scan :=
  match word.toList with
  | ['-', '-'] => .ok { scan with plain := true }
  | '-' :: '-' :: body => scan.takeLong body
  | '-' :: c :: letters => scan.takeLetters (c :: letters)
  | _ =>
      match scan.pending with
      | .wanting name => .ok { scan with pending := .option name word }
      | _ => scan.takePlain word

/-- Takes the next word. -/
def take (scan : Scan) (word : String) : Except UsageError Scan :=
  if scan.plain then
    scan.takePlain word
  else
    match scan.pending with
    | .wanting name =>
        if name.takesAnyWord then
          .ok { scan with pending := .option name word }
        else
          scan.takeWord word
    | _ => scan.takeWord word

end Scan

/-- Sets an option from its environment variable, unless it is set or has
none. -/
def setFrom (environment : List (String × String)) (options : Options) (name : OptionName) :
    Except UsageError Options :=
  if options.isSet name then
    .ok options
  else
    match name.environmentName?.bind fun label => environment.lookup label with
    | some value => options.set name value
    | none => .ok options

/-- The options of a command line and an environment. -/
def parse (words : List String) (environment : List (String × String)) :
    Except UsageError Options := do
  let scan ← words.foldlM Scan.take .start
  let scan ← scan.settle
  OptionName.all.foldlM (setFrom environment) scan.options

end Options

end RemoteInput
