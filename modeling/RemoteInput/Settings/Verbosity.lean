import RemoteInput.Text.Blank
import RemoteInput.Text.Quoted

/-!
# Verbosity

How much the server logs.  The name of a verbosity is read in any ASCII letter
case, with the blanks around it dropped.
-/

namespace RemoteInput

/-- How much the server logs. -/
inductive Verbosity where
  | verbose
  | debug
  | info
  | warn
  | error
  deriving DecidableEq, Repr

namespace Verbosity

/-- The least severity that a verbosity lets through. -/
def filter : Verbosity → String
  | .verbose => "trace"
  | .debug => "debug"
  | .info => "info"
  | .warn => "warn"
  | .error => "error"

/-- The names of verbosities; two have a second name. -/
def names : List (String × Verbosity) :=
  [("verbose", .verbose), ("trace", .verbose), ("debug", .debug), ("info", .info),
    ("warn", .warn), ("warning", .warn), ("error", .error)]

/-- The verbosity with a name, if it has one. -/
def ofText? (text : String) : Option Verbosity :=
  names.lookup (String.ofList (Text.lower (Text.trim text.toList)))

/-- The wording of a name that no verbosity has. -/
def unknownMessage (text : String) : String :=
  "unknown log level " ++ Text.quoted text
    ++ " (expected verbose, debug, info, warn or error)"

end Verbosity

end RemoteInput
