/-
TypeSynthesis.Encoder — writing a body, one checked instruction at a time.

An encoder holds the instructions so far, the declared locals, and the depth of the evaluation stack, now
and at its greatest. A body is straight-line code, so the depth after each instruction is a plain number;
`ret` ends it.

Models `InstructionEncoder`. Its two stack counters have 16 bits; `depth` and `maxDepth` are natural
numbers without a bound, so bodies whose stack grows past 65535 values are outside the model.

* `Emission` — an instruction to be written, by mnemonic; a call may bring its own stack effect.
* `Encoder.complaint?` — the first thing that is wrong with an instruction: the body has ended, the kind
  of its operand, an undeclared slot, too few values on the stack.
* `Encoder.write`, `Encoder.declareLocal`, `Encoder.finalize` — the operations; `Request` and
  `Encoder.answer` are the same as data.
* `state_write_of_error` — a refused instruction leaves no trace.
-/
import TypeSynthesis.Outcome
import TypeSynthesis.Code.Listing

namespace TypeSynthesis

/-! ## Instructions to be written -/

/-- An instruction to be written. `call` is for call instructions alone: it says how many values the call
takes and whether it leaves one. -/
inductive Emission where
  | plain (mnemonic : String) (operand : Operand)
  | call (mnemonic : String) (operand : Operand) (arguments : UInt8) (leavesValue : Bool)
  deriving DecidableEq, Repr

namespace Emission

/-- Do nothing. -/
def nop : Emission := .plain "nop" .none

/-- Push null. -/
def ldnull : Emission := .plain "ldnull" .none

/-- Push a constant. -/
def ldcI4 (value : Int32) : Emission := .plain "ldc.i4" (.int32 value)

/-- Push an argument. -/
def ldarg (index : UInt16) : Emission := .plain "ldarg" (.argument index)

/-- Push a local. -/
def ldloc (slot : Slot) : Emission := .plain "ldloc" (.slot slot)

/-- Pop into a local. -/
def stloc (slot : Slot) : Emission := .plain "stloc" (.slot slot)

/-- Push a pointer to a callable. -/
def ldftn (callable : CallableName) : Emission := .plain "ldftn" (.callable callable)

/-- Make an adapter of the pointer on the stack. -/
def newobj (shape : Shape) : Emission := .plain "newobj" (.adapter shape)

/-- Make an array of the length on the stack. -/
def newarr (element : TypeName) : Emission := .plain "newarr" (.type element)

/-- Box the value on the stack. -/
def box (type : TypeName) : Emission := .plain "box" (.type type)

/-- Store a value at an index of an array. -/
def stelemRef : Emission := .plain "stelem.ref" .none

/-- Call late: pop the receiver and the packed arguments, and push a result if the call leaves one. -/
def invokeLate (callable : CallableName) (leavesValue : Bool) : Emission :=
  .call "invoke.late" (.callable callable) 2 leavesValue

/-- Return. -/
def ret : Emission := .plain "ret" .none

end Emission

/-! ## Encoders -/

/-- A body in the making. -/
structure Encoder where
  instructions : Array Instruction
  locals : List Local
  /-- The depth of the evaluation stack after the last instruction; no counter ends at 65535. -/
  depth : Nat
  /-- The greatest depth so far, without a bound as well. -/
  maxDepth : Nat
  /-- The body has returned; nothing can follow. -/
  ended : Bool
  deriving DecidableEq, Repr

namespace Encoder

/-- Nothing written yet. -/
def fresh : Encoder := ⟨#[], [], 0, 0, false⟩

/-- The number of instructions so far. -/
def count (e : Encoder) : Nat := e.instructions.size

/-- Nothing is written yet. -/
def isEmpty (e : Encoder) : Bool := e.count == 0

/-- The slot declared for a purpose. -/
def slotFor? (e : Encoder) (purpose : Purpose) : Option Slot := Local.slotFor? purpose e.locals

/-- The slot is declared. -/
def declares (e : Encoder) (slot : Slot) : Bool := slot.index.toNat < e.locals.length

/-- The slot that an operand names without declaration. -/
def undeclared? (e : Encoder) : Operand → Option Slot
  | .slot s => if e.declares s then none else some s
  | _ => none

/-- The first thing that is wrong with an instruction that pops that many values. -/
def complaint? (e : Encoder) (op : OpCode) (operand : Operand) (pops : Nat) : Option Fault :=
  if e.ended then some (.afterReturn op)
  else if operand.kind ≠ op.operand then some (.wrongOperand op)
  else match e.undeclared? operand with
    | some slot => some (.undeclaredLocal slot op)
    | none => if e.depth < pops then some (.stackUnderflow op e.depth) else none

/-- Add an instruction without checks. -/
def append (e : Encoder) (op : OpCode) (operand : Operand) (pops pushes : Nat) : Encoder :=
  let depth := e.depth - pops + pushes
  { instructions := e.instructions.push ⟨op, operand⟩
    locals := e.locals
    depth := depth
    maxDepth := max e.maxDepth depth
    ended := op.flow == .returns }

/-- Add an instruction with a given stack effect unless something is wrong with it. -/
def writeOp (e : Encoder) (op : OpCode) (operand : Operand) (pops pushes : Nat) : Outcome Encoder Unit :=
  match e.complaint? op operand pops with
  | some fault => .refuse fault e
  | none => .accept () (e.append op operand pops pushes) [.emitted ⟨op, operand⟩]

/-- Write an instruction. -/
def write (e : Encoder) : Emission → Outcome Encoder Unit
  | .plain mnemonic operand =>
    match OpCode.ofMnemonic? mnemonic with
    | none => .refuse (.unknownMnemonic mnemonic) e
    | some op => e.writeOp op operand op.pops op.pushes
  | .call mnemonic operand arguments leavesValue =>
    match OpCode.ofMnemonic? mnemonic with
    | none => .refuse (.unknownMnemonic mnemonic) e
    | some op =>
      if op.flow = .call then e.writeOp op operand arguments.toNat leavesValue.toNat
      else .refuse (.notACall op) e

/-- The slot for a purpose: the one that it has, whatever its type, or else the next one. -/
def declareLocal (e : Encoder) (purpose : Purpose) (type : LocalType) : Outcome Encoder Slot :=
  match e.slotFor? purpose with
  | some slot => .accept slot e []
  | none =>
    if e.locals.length < UInt16.size then
      let slot : Slot := ⟨.ofNat e.locals.length⟩
      .accept slot { e with locals := e.locals ++ [⟨slot, purpose, type⟩] }
        [.localDeclared slot purpose type]
    else .refuse .tooManyLocals e

/-- The finished body; refused before a return. -/
def finalize (e : Encoder) : Except Fault Code :=
  if e.ended then .ok ⟨e.instructions.toList, e.locals, e.maxDepth⟩ else .error .noReturn

end Encoder

/-! ## Requests as data -/

/-- What a body may ask of its encoder. -/
inductive Request where
  | write (emission : Emission)
  | declareLocal (purpose : Purpose) (type : LocalType)
  deriving DecidableEq, Repr

namespace Encoder

/-- Answer a request; a declaration is answered with its slot. -/
def answer (e : Encoder) : Request → Outcome Encoder (Option Slot)
  | .write m => let o := e.write m; ⟨o.result.map fun _ => none, o.state, o.told⟩
  | .declareLocal p t => let o := e.declareLocal p t; ⟨o.result.map some, o.state, o.told⟩

/-- The encoder after a request, granted or not. -/
def after (e : Encoder) (q : Request) : Encoder := (e.answer q).state

/-- The encoder after requests in order, each granted or not. -/
def afterAll (e : Encoder) (qs : List Request) : Encoder := qs.foldl after e

/-! ## Facts -/

/-- A refused instruction leaves no trace. -/
theorem writeOp_of_error {e : Encoder} {op : OpCode} {operand : Operand} {pops pushes : Nat} {f : Fault}
    (h : (e.writeOp op operand pops pushes).result = .error f) :
    e.writeOp op operand pops pushes = .refuse f e := by
  unfold writeOp at h ⊢
  cases hc : e.complaint? op operand pops with
  | none => simp [hc] at h
  | some g =>
    simp only [hc, Outcome.result_refuse, Except.error.injEq] at h
    simp only [h]

/-- A refused instruction leaves no trace. -/
theorem write_of_error {e : Encoder} {m : Emission} {f : Fault} (h : (e.write m).result = .error f) :
    e.write m = .refuse f e := by
  unfold write at h ⊢
  cases m with
  | plain mnemonic operand =>
    cases hm : OpCode.ofMnemonic? mnemonic with
    | none =>
      simp only [hm, Outcome.result_refuse, Except.error.injEq] at h
      simp only [hm, h]
    | some op =>
      simp only [hm] at h
      simpa only [hm] using writeOp_of_error h
  | call mnemonic operand arguments leavesValue =>
    cases hm : OpCode.ofMnemonic? mnemonic with
    | none =>
      simp only [hm, Outcome.result_refuse, Except.error.injEq] at h
      simp only [hm, h]
    | some op =>
      simp only [hm] at h ⊢
      by_cases hf : op.flow = .call
      · rw [if_pos hf] at h ⊢
        exact writeOp_of_error h
      · rw [if_neg hf] at h ⊢
        simp only [Outcome.result_refuse, Except.error.injEq] at h
        rw [h]

/-- After a refused instruction the encoder is as it was. -/
theorem state_write_of_error {e : Encoder} {m : Emission} {f : Fault}
    (h : (e.write m).result = .error f) : (e.write m).state = e := by
  rw [write_of_error h]; rfl

/-- A body that has ended ends in a finished body, and only such a one. -/
theorem finalize_eq_ok_iff {e : Encoder} {c : Code} :
    e.finalize = .ok c ↔ e.ended = true ∧ c = ⟨e.instructions.toList, e.locals, e.maxDepth⟩ := by
  unfold finalize
  by_cases h : e.ended
  · simpa [h] using eq_comm
  · simp [h]

end Encoder

end TypeSynthesis
