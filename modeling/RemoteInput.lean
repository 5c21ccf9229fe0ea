import RemoteInput.Connection
import RemoteInput.Console
import RemoteInput.Console.Clipboard
import RemoteInput.Console.Dispatch
import RemoteInput.Console.Gesture
import RemoteInput.Console.Typing
import RemoteInput.Device
import RemoteInput.Device.InMemory
import RemoteInput.Device.Rehearsal
import RemoteInput.FileTree
import RemoteInput.Keyboard.Composition
import RemoteInput.Keyboard.Key
import RemoteInput.Keyboard.Layout
import RemoteInput.Moment
import RemoteInput.Number.Binary32
import RemoteInput.Number.Literal
import RemoteInput.Pointer
import RemoteInput.Reply
import RemoteInput.Request
import RemoteInput.Request.Arguments
import RemoteInput.Request.Payload
import RemoteInput.Session
import RemoteInput.Settings
import RemoteInput.Settings.File
import RemoteInput.Settings.Options
import RemoteInput.Settings.Resolution
import RemoteInput.Settings.SessionId
import RemoteInput.Settings.SocketAddress
import RemoteInput.Settings.Verbosity
import RemoteInput.Stream.Error
import RemoteInput.Stream.LineDecoder
import RemoteInput.Stream.LineReader
import RemoteInput.Stream.LineWriter
import RemoteInput.Stream.Preview
import RemoteInput.Stream.Storage
import RemoteInput.SwipePath
import RemoteInput.SystemError
import RemoteInput.Text.Base64
import RemoteInput.Text.Blank
import RemoteInput.Text.Hidden
import RemoteInput.Text.Numeral
import RemoteInput.Text.Quoted
import RemoteInput.Text.Utf8
import RemoteInput.Toml.Document
import RemoteInput.Toml.Scalar
import RemoteInput.Toml.Tree
import RemoteInput.Toml.Value
import RemoteInput.Main
import RemoteInput.Proofs.Console.Accounting
import RemoteInput.Proofs.Console.Acts
import RemoteInput.Proofs.Console.Commands
import RemoteInput.Proofs.Console.Injections
import RemoteInput.Proofs.Console.Interruption
import RemoteInput.Proofs.Console.Progress
import RemoteInput.Proofs.Console.Replies
import RemoteInput.Proofs.Console.Stamps
import RemoteInput.Proofs.Console.Swiping
import RemoteInput.Proofs.Console.Timeline
import RemoteInput.Proofs.Reply
import RemoteInput.Proofs.Session.Cancellation
import RemoteInput.Proofs.Session.Course
import RemoteInput.Proofs.Session.Refinement
import RemoteInput.Proofs.Session.Rejection
import RemoteInput.Proofs.Session.ReplyStream
import RemoteInput.Proofs.Session.Timekeeping
import RemoteInput.Proofs.Session.Transcript
import RemoteInput.Proofs.Stream.Framing
import RemoteInput.Proofs.Stream.Writing
import RemoteInput.Proofs.Text.Utf8
import RemoteInput.Proofs.Text.Words
import RemoteInput.Proofs.Request
import RemoteInput.Proofs.Request.Payload
import RemoteInput.Proofs.Console.Wording
import RemoteInput.Proofs.Console.Calls
import RemoteInput.Proofs.Console.Gate
import RemoteInput.Proofs.Console.Touches
import RemoteInput.Proofs.Session.Conversation
import RemoteInput.Proofs.Console.Register
import RemoteInput.Proofs.Stream.Sending
import RemoteInput.Proofs.Request.Delivery
import RemoteInput.Proofs.Session.LineEnds
import RemoteInput.Proofs.Console.Contracts
import RemoteInput.Proofs.Settings.File
import RemoteInput.Proofs.Settings.Resolution
import RemoteInput.Proofs.Console.Typing
import RemoteInput.Proofs.Session.Failure
import RemoteInput.Proofs.Stream.Received
import RemoteInput.Proofs.Stream.Faults
import RemoteInput.Proofs.Session.Faults
import RemoteInput.Proofs.Request.Numbers
import RemoteInput.Proofs.Session.Waking
import RemoteInput.Proofs.Number.Literal
import RemoteInput.Proofs.Number.Finite
import RemoteInput.Proofs.Request.Forms
import RemoteInput.Proofs.Keyboard.Layout
import RemoteInput.Proofs.Keyboard.Held
import RemoteInput.Proofs.Number.Binary32
import RemoteInput.Proofs.SwipePath.FixedWidth
import RemoteInput.Proofs.SwipePath.Steps
import RemoteInput.Proofs.Number.Rounding
import RemoteInput.Proofs.Number.Arithmetic
import RemoteInput.Proofs.Session.Pressure
import RemoteInput.Proofs.SwipePath.Interpolation
import RemoteInput.Proofs.SwipePath.Waypoints
import RemoteInput.Proofs.SwipePath.StraightLine
import RemoteInput.Proofs.Text.Hexadecimal
import RemoteInput.Proofs.Settings.SessionText
import RemoteInput.Proofs.Settings.SessionId
import RemoteInput.Proofs.Request.Canonical
import RemoteInput.Proofs.Device.Ledger
