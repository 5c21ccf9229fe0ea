import RemoteInput.Reply
import RemoteInput.Text.Blank

/-!
# Requests

A request line is a keyword and, after the first blank, its arguments.  The
keyword is read in any ASCII letter case.  A keyword outside the protocol is
kept, so that it can be refused by name.
-/

namespace RemoteInput

/-- What a request asks for. -/
inductive Verb where
  | ping
  | clipGet
  | clipSet
  | tap
  | swipe
  | drag
  | keycode
  | text
  | unknown (keyword : String)
  deriving DecidableEq, Repr

namespace Verb

/-- The keyword of a verb. -/
def keyword : Verb → String
  | .ping => "PING"
  | .clipGet => "CLIP_GET"
  | .clipSet => "CLIP_SET"
  | .tap => "TAP"
  | .swipe => "SWIPE"
  | .drag => "DRAG"
  | .keycode => "KEYCODE"
  | .text => "TEXT"
  | .unknown keyword => keyword

/-- The verbs of the protocol. -/
def known : List Verb :=
  [.ping, .clipGet, .clipSet, .tap, .swipe, .drag, .keycode, .text]

/-- The verb of an upper-case keyword. -/
def ofKeyword (keyword : String) : Verb :=
  (known.find? fun verb => verb.keyword = keyword).getD (.unknown keyword)

/-- A keyword outside the protocol. -/
def isUnknown : Verb → Bool
  | .unknown _ => true
  | _ => false

/-- A verb that only a display with input support can serve.  Unknown verbs
count among them. -/
def requiresInput : Verb → Bool
  | .ping | .clipGet | .clipSet => false
  | _ => true

end Verb

/-- A request line taken apart. -/
structure Request where
  verb : Verb
  arguments : String
  deriving DecidableEq, Repr

namespace Request

/-- Takes a request line apart; a line of blanks is refused. -/
def ofLine (line : String) : Except Refusal Request :=
  match Text.trim line.toList with
  | [] => .error .emptyCommand
  | text =>
      let (keyword, rest) := Text.cutAtBlank text
      .ok
        { verb := .ofKeyword (String.ofList (Text.upper keyword))
          arguments := String.ofList (Text.trim rest) }

end Request

end RemoteInput
