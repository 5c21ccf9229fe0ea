/-!
# Keys

Key codes follow the numbering of the device; any thirty-two bit code can be
pressed, and the ones that the server names itself are listed.  A key event
carries the state of the modifier keys as a set of bits.
-/

namespace RemoteInput

/-- The code of a key on the device. -/
structure KeyCode where
  value : Int32
  deriving DecidableEq, Repr

namespace KeyCode

def star : KeyCode := ⟨17⟩
def pound : KeyCode := ⟨18⟩
def power : KeyCode := ⟨26⟩
def comma : KeyCode := ⟨55⟩
def period : KeyCode := ⟨56⟩
def leftAlt : KeyCode := ⟨57⟩
def leftShift : KeyCode := ⟨59⟩
def tab : KeyCode := ⟨61⟩
def space : KeyCode := ⟨62⟩
def enter : KeyCode := ⟨66⟩
def grave : KeyCode := ⟨68⟩
def minus : KeyCode := ⟨69⟩
def equals : KeyCode := ⟨70⟩
def leftBracket : KeyCode := ⟨71⟩
def rightBracket : KeyCode := ⟨72⟩
def backslash : KeyCode := ⟨73⟩
def semicolon : KeyCode := ⟨74⟩
def apostrophe : KeyCode := ⟨75⟩
def slash : KeyCode := ⟨76⟩
def atSign : KeyCode := ⟨77⟩
def plus : KeyCode := ⟨81⟩

/-- The key of a digit in the top row. -/
def digit? (n : Nat) : Option KeyCode :=
  if n ≤ 9 then some ⟨Int32.ofNat (7 + n)⟩ else none

/-- The key of an ASCII letter of either case; the keys are consecutive. -/
def letter? (c : Char) : Option KeyCode :=
  if 'a' ≤ c && c ≤ 'z' then some ⟨Int32.ofNat (29 + (c.toNat - 0x61))⟩
  else if 'A' ≤ c && c ≤ 'Z' then some ⟨Int32.ofNat (29 + (c.toNat - 0x41))⟩
  else none

end KeyCode

/-- The modifier keys that are held, as a set of bits. -/
structure MetaState where
  bits : UInt32
  deriving DecidableEq, Repr

namespace MetaState

/-- No modifier is held. -/
def none : MetaState := ⟨0⟩

/-- The bits of a held Shift key, of either side and of the left side. -/
def shift : MetaState := ⟨0x41⟩

/-- The bits of a held Alt key, of either side and of the left side. -/
def alt : MetaState := ⟨0x12⟩

/-- Some Shift bit is set. -/
def hasShift (state : MetaState) : Bool :=
  state.bits &&& shift.bits != 0

/-- Some Alt bit is set. -/
def hasAlt (state : MetaState) : Bool :=
  state.bits &&& alt.bits != 0

/-- No bit is set. -/
def isEmpty (state : MetaState) : Bool :=
  state.bits == 0

end MetaState

/-- The direction of a key. -/
inductive KeyMotion where
  | down
  | up
  deriving DecidableEq, Repr

/-- One transition of a key, with the modifiers held after it and a repeat
count. -/
structure KeyEvent where
  motion : KeyMotion
  code : KeyCode
  held : MetaState
  repeats : Nat
  deriving DecidableEq, Repr

namespace KeyEvent

/-- A transition that is no repetition. -/
def single (motion : KeyMotion) (code : KeyCode) (held : MetaState) : KeyEvent :=
  { motion, code, held, repeats := 0 }

/-- A key goes down while no modifier is held. -/
def down (code : KeyCode) : KeyEvent := single .down code .none

/-- A key comes up while no modifier is held. -/
def up (code : KeyCode) : KeyEvent := single .up code .none

end KeyEvent

end RemoteInput
