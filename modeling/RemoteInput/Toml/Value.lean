/-!
# TOML values

What a TOML document says, after its tables have been put together.  Only what
a reader of settings can tell apart is kept: of floats and dates no more than
that they are there.
-/

namespace RemoteInput

namespace Toml

/-- A value of a document. -/
inductive Value where
  | text (content : String)
  | integer (value : Int)
  | boolean (value : Bool)
  | float
  | date
  | array (items : List Value)
  | table (entries : List (String × Value))
  deriving Repr

end Toml

end RemoteInput
