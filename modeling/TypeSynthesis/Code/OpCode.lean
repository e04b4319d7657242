/-
TypeSynthesis.Code.OpCode — the instruction set.

Thirteen opcodes of a stack machine. Each has a mnemonic, the kind of operand it takes, the number of
values it pops and pushes, and the way control goes on. Calls may be given another stack effect where they
are written, since what a call takes and leaves depends on what is called.

Models `OpCode` with its `OpCodeInfo`, `OperandType` and `FlowType`.

* `OpCode.ofMnemonic?_eq_some_iff` — the mnemonic tells the opcodes apart.
* `OpCode.flow_eq_returns_iff` — only `ret` ends a body.
-/
namespace TypeSynthesis

/-! ## Kinds -/

/-- The kinds of operand. -/
inductive OperandKind where
  | none
  | int32
  | argument
  | slot
  | type
  | callable
  | adapter
  deriving DecidableEq, Repr

/-- The kind in words. -/
def OperandKind.describe : OperandKind → String
  | none => "no operand"
  | int32 => "an int32 immediate"
  | argument => "an argument index"
  | slot => "a local slot"
  | type => "a type"
  | callable => "a callable"
  | adapter => "an adapter shape"

/-- How control goes on after an instruction. -/
inductive Flow where
  | sequential
  | call
  | returns
  deriving DecidableEq, Repr

/-- The flow as it is inspected. -/
def Flow.inspected : Flow → String
  | sequential => "Sequential"
  | call => "Call"
  | returns => "Return"

/-! ## Opcodes -/

/-- The opcodes, in the order of the instruction set. -/
inductive OpCode where
  | nop
  | ldnull
  | ldcI4
  | ldarg
  | ldloc
  | stloc
  | ldftn
  | newobj
  | newarr
  | box
  | stelemRef
  | invokeLate
  | ret
  deriving DecidableEq, Repr

namespace OpCode

/-- All opcodes, in order. -/
def all : List OpCode :=
  [nop, ldnull, ldcI4, ldarg, ldloc, stloc, ldftn, newobj, newarr, box, stelemRef, invokeLate, ret]

/-- The name in listings. -/
def mnemonic : OpCode → String
  | nop => "nop"
  | ldnull => "ldnull"
  | ldcI4 => "ldc.i4"
  | ldarg => "ldarg"
  | ldloc => "ldloc"
  | stloc => "stloc"
  | ldftn => "ldftn"
  | newobj => "newobj"
  | newarr => "newarr"
  | box => "box"
  | stelemRef => "stelem.ref"
  | invokeLate => "invoke.late"
  | ret => "ret"

/-- The opcode as it is inspected. -/
def inspected : OpCode → String
  | nop => "Nop"
  | ldnull => "Ldnull"
  | ldcI4 => "LdcI4"
  | ldarg => "Ldarg"
  | ldloc => "Ldloc"
  | stloc => "Stloc"
  | ldftn => "Ldftn"
  | newobj => "Newobj"
  | newarr => "Newarr"
  | box => "Box"
  | stelemRef => "StelemRef"
  | invokeLate => "InvokeLate"
  | ret => "Ret"

/-- The kind of operand the opcode takes. -/
def operand : OpCode → OperandKind
  | ldcI4 => .int32
  | ldarg => .argument
  | ldloc | stloc => .slot
  | newarr | box => .type
  | ldftn | invokeLate => .callable
  | newobj => .adapter
  | nop | ldnull | stelemRef | ret => .none

/-- The number of values popped. -/
def pops : OpCode → Nat
  | stelemRef => 3
  | invokeLate => 2
  | stloc | newobj | newarr | box => 1
  | nop | ldnull | ldcI4 | ldarg | ldloc | ldftn | ret => 0

/-- The number of values pushed. -/
def pushes : OpCode → Nat
  | ldnull | ldcI4 | ldarg | ldloc | ldftn | newobj | newarr | box => 1
  | nop | stloc | stelemRef | invokeLate | ret => 0

/-- How control goes on. -/
def flow : OpCode → Flow
  | newobj | invokeLate => .call
  | ret => .returns
  | _ => .sequential

/-- The opcode with the mnemonic. -/
def ofMnemonic? (m : String) : Option OpCode := all.find? (·.mnemonic == m)

/-! ## Facts -/

/-- A text is a mnemonic exactly when it is that of some opcode. -/
theorem ofMnemonic?_eq_some_iff {m : String} {op : OpCode} :
    ofMnemonic? m = some op ↔ op.mnemonic = m := by
  constructor
  · intro h
    simpa using List.find?_some h
  · rintro rfl
    cases op <;> rfl

@[simp] theorem ofMnemonic?_mnemonic (op : OpCode) : ofMnemonic? op.mnemonic = some op :=
  ofMnemonic?_eq_some_iff.mpr rfl

/-- The mnemonic tells the opcodes apart. -/
theorem mnemonic_injective {a b : OpCode} (h : a.mnemonic = b.mnemonic) : a = b := by
  simpa using congrArg ofMnemonic? h

/-- Only `ret` ends a body. -/
theorem flow_eq_returns_iff (op : OpCode) : op.flow = .returns ↔ op = ret := by cases op <;> decide

end OpCode

end TypeSynthesis
