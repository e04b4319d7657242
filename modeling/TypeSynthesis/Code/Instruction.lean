/-
TypeSynthesis.Code.Instruction — instructions, their operands and the local slots of a body.

Models `Instruction`, `Operand`, `LocalSlot`, `LocalPurpose`, `LocalType` and `LocalVariable`.

* `Operand.kind` — the kind that an opcode asks for.
* `Instruction.text` — the mnemonic, and after a blank the operand when there is one.
* `Local` — a slot is declared for a purpose, and a body has at most one slot for each.
-/
import TypeSynthesis.Code.OpCode
import TypeSynthesis.Callable

namespace TypeSynthesis

/-! ## Local slots -/

/-- The position of a local. -/
structure Slot where
  index : UInt16
  deriving DecidableEq, Repr, Inhabited

/-- The written form of a slot. -/
def Slot.text (s : Slot) : String := "V_" ++ toString s.index.toNat

/-- What a local is for: the adapter that binds a callable, or the array of packed arguments. -/
inductive Purpose where
  | adapter
  | arguments
  deriving DecidableEq, Repr

namespace Purpose

/-- Both purposes, in order. -/
def all : List Purpose := [adapter, arguments]

/-- The written form. -/
def text : Purpose → String
  | adapter => "adapter"
  | arguments => "arguments"

end Purpose

/-- The type of a local. -/
inductive LocalType where
  | adapter (shape : Shape)
  | array (element : TypeName)
  | value (type : TypeName)
  deriving DecidableEq, Repr

/-- The written form of the type of a local. -/
def LocalType.text : LocalType → String
  | adapter s => s.text
  | array t => t.full ++ "[]"
  | value t => t.full

/-- A declared local. -/
structure Local where
  slot : Slot
  purpose : Purpose
  type : LocalType
  deriving DecidableEq, Repr

/-- The slot declared for a purpose. -/
def Local.slotFor? (purpose : Purpose) (locals : List Local) : Option Slot :=
  (locals.find? (·.purpose == purpose)).map (·.slot)

/-! ## Instructions -/

/-- The operand of an instruction. -/
inductive Operand where
  | none
  | int32 (value : Int32)
  | argument (index : UInt16)
  | slot (slot : Slot)
  | type (name : TypeName)
  | callable (name : CallableName)
  | adapter (shape : Shape)
  deriving DecidableEq, Repr

namespace Operand

/-- The kind of the operand. -/
def kind : Operand → OperandKind
  | none => .none
  | int32 _ => .int32
  | argument _ => .argument
  | slot _ => .slot
  | type _ => .type
  | callable _ => .callable
  | adapter _ => .adapter

/-- The written form; an adapter's shape is written as its constructor. -/
def text : Operand → String
  | none => ""
  | int32 v => toString v.toInt
  | argument i => toString i.toNat
  | slot s => s.text
  | type t => t.full
  | callable c => c.text
  | adapter s => s.text ++ "::.ctor"

/-- The operand as it is inspected. -/
def inspected : Operand → String
  | none => "None"
  | int32 v => "Int32(" ++ toString v.toInt ++ ")"
  | argument i => "Argument(" ++ toString i.toNat ++ ")"
  | slot s => "Local(LocalSlot(" ++ toString s.index.toNat ++ "))"
  | type t => "Type(" ++ t.inspected ++ ")"
  | callable c => "Callable(" ++ c.inspected ++ ")"
  | adapter s => "Adapter(" ++ s.outline.inline ++ ")"

end Operand

/-- An instruction. -/
structure Instruction where
  opcode : OpCode
  operand : Operand
  deriving DecidableEq, Repr

/-- The written form of an instruction. -/
def Instruction.text (i : Instruction) : String :=
  match i.operand with
  | .none => i.opcode.mnemonic
  | operand => i.opcode.mnemonic ++ " " ++ operand.text

end TypeSynthesis
