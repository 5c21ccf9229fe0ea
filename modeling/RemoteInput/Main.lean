import RemoteInput.Device.InMemory
import RemoteInput.Session
import RemoteInput.Settings.Resolution

/-!
# The server program

The program takes its settings from the command line, the environment and a
settings file.  Unless control is disabled it then serves one session in front
of a device in memory; the control stream is standard input and output.
-/

namespace RemoteInput

namespace Main

/-- The variables of the environment that set options. -/
def environment : IO (List (String × String)) := do
  let names := OptionName.all.filterMap OptionName.environmentName?
  names.filterMapM fun name => do
    return (← IO.getEnv name).map fun value => (name, value)

/-- The error that a failed access stands for. -/
def systemError : IO.Error → SystemError
  | .noFileOrDirectory _ _ _ => .notFound
  | .permissionDenied _ _ _ => .permissionDenied
  | .inappropriateType _ code _ => if code = 21 then .isADirectory else .notADirectory
  | error => .other (toString error)

/-- The text of a file. -/
def readFile (path : String) : IO (Except SystemError String) := do
  match ← (IO.FS.readBinFile path).toBaseIO with
  | .error error => return .error (systemError error)
  | .ok bytes =>
      match Utf8.decode? bytes.toList with
      | some text => return .ok (String.ofList text)
      | none => return .error .notUtf8

/-- Serves requests until the session ends.  Replies are written as soon as they
are there, and bytes are read when the requests before them are served. -/
partial def serve (input output : IO.FS.Stream) (channel : LineChannel)
    (console : Console InMemoryDevice) : IO SessionOutcome := do
  match Session.turn channel console with
  | .served { reader, writer } console =>
      output.write ⟨writer.taken⟩
      output.flush
      serve input output { reader, writer := { writer with taken := #[] } } console
  | .ended .waiting { reader, writer } console =>
      let bytes ← input.read Storage.initialSize.toUSize
      let source := [.bytes bytes.toList, .silence]
      serve input output { reader := { reader with source }, writer } console
  | .ended outcome _ _ => return outcome

/-- Serves one session and gives the exit code. -/
def session (settings : Settings) : IO UInt32 := do
  let channel : LineChannel :=
    { reader := .start settings.maxLineLength [.silence], writer := .start .perfect }
  let device : InMemoryDevice := { keepsEvents := false }
  let ((), console) := Console.begin.run (.start settings.display device {})
  let (_, console) := Session.begin "control" settings.powerOn console
  match ← serve (← IO.getStdin) (← IO.getStdout) channel console with
  | .fatal error =>
      IO.eprintln ("Error: control session failed: " ++ error.message)
      return 1
  | _ => return 0

/-- Runs the server with the words of a command line. -/
def run (words : List String) : IO UInt32 := do
  match Options.parse words (← environment) with
  | .error usage =>
      match usage with
      | .displayHelp => IO.println OptionName.help
      | .displayVersion => IO.println serverVersion
      | _ => IO.eprintln ("error: " ++ usage.message)
      return usage.exitCode.toUInt32
  | .ok options =>
      let config ← options.config.mapM readFile
      match Settings.resolve (fun _ => config.getD (.error .notFound)) options with
      | .error error =>
          IO.eprintln ("Error: " ++ error.message)
          return 1
      | .ok settings =>
          if settings.control then session settings else return 0

end Main

end RemoteInput

/-- The entry point of the program. -/
def main (words : List String) : IO UInt32 :=
  RemoteInput.Main.run words
