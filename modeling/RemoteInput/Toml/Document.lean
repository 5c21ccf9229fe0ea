import RemoteInput.Toml.Scalar
import RemoteInput.Toml.Tree

/-!
# Documents of TOML

A document is a list of key-value pairs, table headers and comments, one a
line.  Reading it puts its tables together; a document that is malformed at any
place, or that defines something twice, has no value.

Values may be nested in one another fewer than eighty times, and a key may have
fewer than eighty parts.
-/

namespace RemoteInput

namespace Toml

/-- The nesting of values and the length of keys stay below this number. -/
def nestingLimit : Nat := 80

/-! ## Keys -/

/-- A character of a key without quotes. -/
def isBareKey (c : Char) : Bool :=
  c.isAlphanum || c = '_' || c = '-'

/-- Reads one part of a key. -/
def keyPart (text : List Char) : Option (String × List Char) :=
  match text with
  | [] => none
  | c :: _ =>
      if c = '"' || c = '\x27' then
        (lineString text).map fun read => (String.ofList read.1, read.2)
      else if isBareKey c then
        some (String.ofList (text.takeWhile isBareKey), text.dropWhile isBareKey)
      else
        none

/-- Reads the parts of a key, at most a given number, with the space around
them. -/
def keyParts : Nat → Reader (List String)
  | 0, _ => none
  | left + 1, text => do
      let (part, rest) ← keyPart (skipSpace text)
      match skipSpace rest with
      | '.' :: rest =>
          let (parts, rest) ← keyParts left rest
          some (part :: parts, rest)
      | rest => some ([part], rest)

/-- Reads a key: the path to its table, and its last part. -/
def key (text : List Char) : Option ((List String × String) × List Char) := do
  let (parts, rest) ← keyParts (nestingLimit - 1) text
  let last ← parts.getLast?
  some ((parts.dropLast, last), rest)

/-! ## Values -/

/-- Drops blank text, line ends and comments between the items of an array. -/
def gap (inComment : Bool) : List Char → Option (List Char)
  | [] => if inComment then none else some []
  | '\n' :: rest => gap false rest
  | '\r' :: '\n' :: rest => gap false rest
  | c :: rest =>
      if inComment then
        if isPlain c then gap true rest else none
      else if isSpace c then gap false rest
      else if c = '#' then gap true rest
      else some (c :: rest)

/-- Reads the items of an array up to its closing bracket; every item uses up
one unit of fuel. -/
def items (item : Reader Value) : Nat → Reader (List Value)
  | 0, _ => none
  | fuel + 1, text => do
      match ← gap false text with
      | ']' :: rest => some ([], rest)
      | text =>
          let (value, rest) ← item text
          match ← gap false rest with
          | ']' :: rest => some ([value], rest)
          | ',' :: rest =>
              let (values, rest) ← items item fuel rest
              some (value :: values, rest)
          | _ => none

/-- Reads a key, an equals sign and a value. -/
def pair (item : Reader Value) (text : List Char) :
    Option ((List String × String × Value) × List Char) := do
  let ((path, last), rest) ← key text
  match rest with
  | '=' :: rest =>
      let (value, rest) ← item (skipSpace rest)
      some ((path, last, value), rest)
  | _ => none

/-- Reads the pairs of an inline table up to its closing brace, adding them to a
tree; every pair uses up one unit of fuel. -/
def pairs (item : Reader Value) : Nat → Tree → Reader Tree
  | 0, _, _ => none
  | fuel + 1, tree, text => do
      let ((path, last, value), rest) ← pair item text
      let tree ← tree.addAt path last value
      match skipSpace rest with
      | '\x7d' :: rest => some (tree, rest)
      | ',' :: rest => pairs item fuel tree rest
      | _ => none

/-- Reads an inline table, after its opening brace. -/
def inlineTable (item : Reader Value) (text : List Char) : Option (Value × List Char) :=
  match skipSpace text with
  | '\x7d' :: rest => some (.table [], rest)
  | text => (pairs item text.length .empty text).map fun read => (read.1.toValue, read.2)

/-- Reads a value with at most a given number of arrays and inline tables around
any part of it. -/
def value : Nat → Reader Value
  | depth, text =>
      match depth, text with
      | depth + 1, '[' :: rest =>
          (items (value depth) rest.length rest).map fun read => (.array read.1, read.2)
      | depth + 1, '\x7b' :: rest => inlineTable (value depth) rest
      | _, text => scalar text

/-! ## Lines -/

/-- Drops the rest of a line, which may hold space and a comment only. -/
def endLine (text : List Char) : Option (List Char) :=
  let rest :=
    match skipSpace text with
    | '#' :: rest => rest.dropWhile isPlain
    | rest => rest
  match rest with
  | [] => some []
  | '\n' :: rest => some rest
  | '\r' :: '\n' :: rest => some rest
  | _ => none

/-- A document under way: what was read, and the table that pairs go into. -/
structure Draft where
  tree : Tree
  table : List String

namespace Draft

/-- A document that has said nothing. -/
def empty : Draft := ⟨.empty, []⟩

/-- Adds a pair to the table under way. -/
def addPair (draft : Draft) (path : List String) (last : String) (value : Value) :
    Option Draft := do
  let tree ← draft.tree.within false (·.addAt path last value) draft.table
  some { draft with tree }

/-- Begins the table of a header. -/
def beginTable (draft : Draft) (path : List String) (last : String) : Option Draft := do
  some ⟨← draft.tree.define path last, path ++ [last]⟩

/-- Begins a further table of an array, by its header. -/
def beginItem (draft : Draft) (path : List String) (last : String) : Option Draft := do
  some ⟨← draft.tree.append path last, path ++ [last]⟩

end Draft

/-- Reads a header after its opening brackets. -/
def header (closing : List Char) (begin : List String → String → Option Draft)
    (text : List Char) : Option (Draft × List Char) := do
  let ((path, last), rest) ← key text
  let rest ← endLine (← literal? closing rest)
  some (← begin path last, rest)

/-- Reads a line that is not blank. -/
def line (draft : Draft) : Reader Draft
  | '#' :: rest => (endLine ('#' :: rest)).map fun rest => (draft, rest)
  | '[' :: '[' :: rest => header [']', ']'] draft.beginItem rest
  | '[' :: rest => header [']'] draft.beginTable rest
  | text => do
      let ((path, last, value), rest) ← pair (value (nestingLimit - 1)) text
      let draft ← draft.addPair path last value
      some (draft, ← endLine rest)

/-- Reads lines to the end of the text; every line uses up one unit of fuel. -/
def lines : Nat → Draft → List Char → Option Draft
  | 0, _, _ => none
  | fuel + 1, draft, text =>
      match skipSpace text with
      | [] => some draft
      | '\n' :: rest => lines fuel draft rest
      | '\r' :: '\n' :: rest => lines fuel draft rest
      | text => do
          let (draft, rest) ← line draft text
          lines fuel draft rest

/-- Drops a byte order mark. -/
def dropMark : List Char → List Char
  | '\uFEFF' :: rest => rest
  | text => text

/-- The table that a document describes. -/
def parse? (document : String) : Option Value :=
  let text := dropMark document.toList
  (lines (text.length + 1) .empty text).map fun draft => draft.tree.toValue

end Toml

end RemoteInput
