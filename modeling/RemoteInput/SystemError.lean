/-!
# Errors of files and sockets

The errors that opening and reading files and sockets can meet, with their
texts, and with the numbers that the operating system gives its own.
-/

namespace RemoteInput

/-- An error of a file or a socket. -/
inductive SystemError where
  | notFound
  | notADirectory
  | isADirectory
  | nameTooLong
  /-- A name holds a NUL, which ends names for the system. -/
  | nulInName
  | notUtf8
  | permissionDenied
  | addressInUse
  | networkUnreachable
  | connectionRefused
  /-- An error that is not told apart from others. -/
  | other (text : String)
  deriving DecidableEq, Repr

namespace SystemError

/-- The text of an error. -/
def message : SystemError → String
  | .notFound => "No such file or directory (os error 2)"
  | .permissionDenied => "Permission denied (os error 13)"
  | .notADirectory => "Not a directory (os error 20)"
  | .isADirectory => "Is a directory (os error 21)"
  | .nameTooLong => "File name too long (os error 36)"
  | .nulInName => "file name contained an unexpected NUL byte"
  | .notUtf8 => "stream did not contain valid UTF-8"
  | .addressInUse => "Address already in use (os error 98)"
  | .networkUnreachable => "Network is unreachable (os error 101)"
  | .connectionRefused => "Connection refused (os error 111)"
  | .other text => text

end SystemError

end RemoteInput
