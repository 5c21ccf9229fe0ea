import RemoteInput.Settings.File
import RemoteInput.Settings.Options
import RemoteInput.SystemError

/-!
# Putting the settings together

The settings file is put together first, with the standard value of every key
that it leaves out.  Then the options that the command line or the environment
set are put over it.  A local socket is named after the session id, so another
session id means another socket.  What can go wrong is looked at in a fixed
order: the version of the client, the settings file, the session id in it, and
the session id of the command line.
-/

namespace RemoteInput

/-- Why a server does not start. -/
inductive StartupError where
  | versionMismatch (client : String)
  | unreadableFile (path : String) (reason : SystemError)
  | malformedFile (path : String)
  | fileSessionId (error : SessionId.ReadError)
  | optionSessionId (text : String) (error : SessionId.ReadError)
  deriving DecidableEq, Repr

/-- The version of the server. -/
def serverVersion : String := "0.1.0"

namespace StartupError

/-- The wording of a bad session id in the settings file. -/
def fileSessionIdText (error : SessionId.ReadError) : String :=
  "invalid server.scid: " ++ error.message

/-- What could not be loaded. -/
def loading (path : String) : String :=
  "failed to load config file " ++ path

/-- The wording of a failed start: what failed, followed by its causes. -/
def message : StartupError → String
  | .versionMismatch client =>
      "the server version (" ++ serverVersion ++ ") does not match the client ("
        ++ client ++ ")"
  | .unreadableFile path reason =>
      loading path ++ ": I/O error reading config at " ++ path ++ ": " ++ reason.message
        ++ ": " ++ reason.message
  | .malformedFile path => loading path
  | .fileSessionId error => fileSessionIdText error ++ ": " ++ error.message
  | .optionSessionId text error =>
      "invalid --scid " ++ Text.quoted text ++ ": " ++ error.message

end StartupError

namespace Settings

/-- Accepts the client if it gives no version or that of the server. -/
def checkVersion : Option String → Except StartupError Unit
  | none => .ok ()
  | some client =>
      if client = serverVersion then .ok () else .error (.versionMismatch client)

/-- Loads the settings file, if there is one. -/
def loadFile (readFile : String → Except SystemError String) :
    Option String → Except StartupError FileSettings
  | none => .ok {}
  | some path =>
      match readFile path with
      | .error reason => .error (.unreadableFile path reason)
      | .ok document =>
          match FileSettings.parse? document with
          | none => .error (.malformedFile path)
          | some file => .ok file

/-- The settings that a settings file gives to a server with a session id, or
without one. -/
def ofFileFor (file : FileSettings) (sessionId : Option SessionId) : Settings :=
  let endpoint :=
    match file.tcp with
    | some address => .tcp address
    | none => .ofSession sessionId
  { sessionId
    display := file.display.getD standard.display
    powerOn := file.powerOn.getD standard.powerOn
    control := file.control.getD standard.control
    endpoint
    tunnelForward := file.tunnelForward.getD standard.tunnelForward
    sendDummyByte := file.sendDummyByte.getD standard.sendDummyByte
    verbosity := file.verbosity.getD standard.verbosity
    maxLineLength := file.maxLineLength.getD standard.maxLineLength }

/-- The settings that a settings file alone gives. -/
def ofFile (file : FileSettings) : Except SessionId.ReadError Settings :=
  match file.sessionId with
  | none => .ok (ofFileFor file none)
  | some text => (SessionId.ofOption text).map (ofFileFor file)

/-- Gives a server another session id.  A local socket is named after it. -/
def withSession (settings : Settings) (sessionId : Option SessionId) : Settings :=
  let endpoint :=
    match settings.endpoint with
    | .localSocket _ => .ofSession sessionId
    | .tcp address => .tcp address
  { settings with sessionId, endpoint }

/-- Takes the session id of an option, if it is set. -/
def takeSession (settings : Settings) : Option String → Except StartupError Settings
  | none => .ok settings
  | some text =>
      match SessionId.ofOption text with
      | .ok sessionId => .ok (settings.withSession sessionId)
      | .error error => .error (.optionSessionId text error)

/-- Takes the other options that are set. -/
def override (settings : Settings) (options : Options) : Settings :=
  let endpoint :=
    match options.tcp with
    | some address => .tcp address
    | none => settings.endpoint
  { settings with
    endpoint
    tunnelForward := options.tunnelForward.getD settings.tunnelForward
    sendDummyByte := options.sendDummyByte.getD settings.sendDummyByte
    display := options.display.getD settings.display
    powerOn := options.powerOn.getD settings.powerOn
    control := options.control.getD settings.control
    verbosity := options.verbosity.getD settings.verbosity
    maxLineLength := options.maxLineLength.getD settings.maxLineLength }

/-- The settings of a server with these options. -/
def resolve (readFile : String → Except SystemError String) (options : Options) :
    Except StartupError Settings := do
  checkVersion options.clientVersion
  let file ← loadFile readFile options.config
  let settings ← (ofFile file).mapError .fileSessionId
  let settings ← settings.takeSession options.sessionId
  return settings.override options

end Settings

end RemoteInput
