/-
TypeSynthesis.Code.Listing — finished bodies and their listings.

Models `MethodCode`; the depth is a natural number, as in the encoder.

* `Code` — the instructions in order, the locals by slot, the greatest depth of the evaluation stack.
* `Code.listing` — a line for the depth, one for each local, one for each instruction. An instruction's
  label is its position, with four hexadecimal digits or more.
-/
import TypeSynthesis.Code.Instruction

namespace TypeSynthesis

/-- A body that is ready to run. -/
structure Code where
  instructions : List Instruction
  locals : List Local
  maxStack : Nat
  deriving DecidableEq, Repr

namespace Code

/-- The slot declared for a purpose. -/
def slotFor? (c : Code) (purpose : Purpose) : Option Slot := Local.slotFor? purpose c.locals

/-- The opcodes, in order. -/
def opcodes (c : Code) : List OpCode := c.instructions.map (·.opcode)

/-! ## The listing -/

/-- The line of a local. -/
def localLine (l : Local) : String :=
  ".local " ++ l.slot.text ++ " " ++ l.type.text ++ " (" ++ l.purpose.text ++ ")"

/-- The line of the instruction at a position. -/
def instructionLine (position : Nat) (i : Instruction) : String :=
  "IL_" ++ Text.upperHex 4 position ++ ": " ++ i.text

/-- The entries of the listing; an entry is one line unless a name in it holds a line feed. -/
def entries (c : Code) : List String :=
  (".maxstack " ++ toString c.maxStack) :: (c.locals.map localLine ++ c.instructions.mapIdx instructionLine)

/-- The listing, every entry with a line feed behind it. -/
def listing (c : Code) : String := String.join (c.entries.map (· ++ "\n"))

end Code

end TypeSynthesis
