import RemoteInput.Toml.Value

/-!
# Putting tables together

A document defines its tables piece by piece: by headers, by dotted keys and by
inline values.  A tree remembers how each of its tables came about, because a
table may be defined only once, and tables from headers and tables from dotted
keys must not be mixed.
-/

namespace RemoteInput

namespace Toml

/-- How a table came about. -/
inductive Origin where
  /-- A header or an array item defines it. -/
  | defined
  /-- A longer header passes through it. -/
  | implied
  /-- A dotted key passes through it. -/
  | dotted
  deriving DecidableEq, Repr

/-- What a key of a table stands for while the document is read. -/
inductive Node where
  | value (value : Value)
  | table (origin : Origin) (entries : List (String × Node))
  | tables (items : List (List (String × Node)))

/-- A table while the document is read. -/
structure Tree where
  origin : Origin
  entries : List (String × Node)

namespace Tree

/-- A document that has said nothing. -/
def empty : Tree := ⟨.defined, []⟩

/-- Sets what a key stands for. -/
def put (tree : Tree) (key : String) (node : Node) : Tree :=
  let others := tree.entries.filter fun entry => entry.1 ≠ key
  { tree with entries := others ++ [(key, node)] }

/-- The origin of tables that a path passes through. -/
def passing (isDotted : Bool) : Origin :=
  if isDotted then .dotted else .implied

/-- Changes the table at the end of a path.  Missing tables are made on the way;
a path through an array of tables means its last table.  A dotted path may not
pass through a table that a header defines. -/
def within (isDotted : Bool) (change : Tree → Option Tree) :
    List String → Tree → Option Tree
  | [], tree => change tree
  | key :: path, tree =>
      match tree.entries.lookup key with
      | none => do
          let child ← within isDotted change path ⟨passing isDotted, []⟩
          some (tree.put key (.table child.origin child.entries))
      | some (.value _) => none
      | some (.table origin entries) =>
          if isDotted && origin = .defined then
            none
          else do
            let child ← within isDotted change path ⟨origin, entries⟩
            some (tree.put key (.table child.origin child.entries))
      | some (.tables items) => do
          let last ← items.getLast?
          let child ← within isDotted change path ⟨.defined, last⟩
          some (tree.put key (.tables (items.dropLast ++ [child.entries])))

/-- Adds a key to a table that has it not; a table takes a dotted key only if
dotted keys made it, and a simple key only if they did not. -/
def add (viaDots : Bool) (key : String) (value : Value) (tree : Tree) : Option Tree :=
  if viaDots != decide (tree.origin = .dotted) then
    none
  else
    match tree.entries.lookup key with
    | none => some (tree.put key (.value value))
    | some _ => none

/-- Adds a value under a key with dots: the path to a table, and the key in it. -/
def addAt (path : List String) (key : String) (value : Value) (tree : Tree) : Option Tree :=
  within true (add (!path.isEmpty) key value) path tree

/-- Defines a table by its header. -/
def define (path : List String) (key : String) (tree : Tree) : Option Tree :=
  within false
    (fun parent =>
      match parent.entries.lookup key with
      | none => some (parent.put key (.table .defined []))
      | some (.table .implied entries) => some (parent.put key (.table .defined entries))
      | some _ => none)
    path tree

/-- Adds a table to an array of tables by its header. -/
def append (path : List String) (key : String) (tree : Tree) : Option Tree :=
  within false
    (fun parent =>
      match parent.entries.lookup key with
      | none => some (parent.put key (.tables [[]]))
      | some (.tables items) => some (parent.put key (.tables (items ++ [[]])))
      | some _ => none)
    path tree

end Tree

mutual

/-- The value that a node has at the end of the document. -/
def Node.toValue : Node → Value
  | .value value => value
  | .table _ entries => .table (toEntries entries)
  | .tables items => .array (toItems items)

/-- The entries of a table at the end of the document. -/
def toEntries : List (String × Node) → List (String × Value)
  | [] => []
  | (key, node) :: rest => (key, node.toValue) :: toEntries rest

/-- The items of an array of tables at the end of the document. -/
def toItems : List (List (String × Node)) → List Value
  | [] => []
  | entries :: rest => .table (toEntries entries) :: toItems rest

end

/-- The value of a whole table. -/
def Tree.toValue (tree : Tree) : Value :=
  .table (toEntries tree.entries)

end Toml

end RemoteInput
