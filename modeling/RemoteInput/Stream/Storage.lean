/-!
# Storage for received bytes

The bytes that were received and not yet used lie in one block of storage, and
a read fills the free part behind them.  So a read yields no more bytes than fit
there.  When the block is full to its end, the kept bytes move to its front if
at least as many used bytes lie before them; otherwise the block is doubled.
-/

namespace RemoteInput

/-- A block of storage, without its contents. -/
structure Storage where
  /-- How many bytes the block can hold. -/
  size : Nat
  /-- Where the kept bytes end. -/
  filled : Nat
  deriving DecidableEq, Repr

namespace Storage

/-- The size of a block that has never been full. -/
def initialSize : Nat := 8192

/-- An unused block. -/
def start : Storage := { size := initialSize, filled := 0 }

/-- The most bytes that a read can yield. -/
def room (storage : Storage) : Nat :=
  storage.size - storage.filled

/-- Prepares a block for a read, given how many bytes are kept in it. -/
def makeRoom (storage : Storage) (kept : Nat) : Storage :=
  if storage.filled < storage.size then
    storage
  else if 2 * kept ≤ storage.filled then
    { storage with filled := kept }
  else
    { storage with size := 2 * storage.size }

/-- Counts the bytes of a read. -/
def fill (storage : Storage) (count : Nat) : Storage :=
  { storage with filled := storage.filled + count }

end Storage

end RemoteInput
