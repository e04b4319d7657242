/-
TypeSynthesis.Fault — why something was refused.

Models `Error`.

* `Fault` — one constructor for each cause.
* `Fault.kind` — the seven kinds; `Fault.message` — the kind's lead, then the cause in words.
* A body may refuse for a reason of its own (`Fault.raised`).
-/
import TypeSynthesis.Code.Instruction
import TypeSynthesis.Forward.Receiver

namespace TypeSynthesis

/-! ## Kinds -/

/-- The kinds of refusal: a bad argument, calls that contradict each other, a call at the wrong time, an
unknown mnemonic, a wrong operand, too few values on the stack, a malformed body. -/
inductive FaultKind where
  | argument
  | configuration
  | state
  | mnemonic
  | operand
  | underflow
  | malformed
  deriving DecidableEq, Repr

/-- The words with which every message of the kind begins. -/
def FaultKind.lead : FaultKind → String
  | argument => "Invalid argument - "
  | configuration => "Invalid configuration - "
  | state => "Invalid state - "
  | mnemonic => "Invalid instruction mnemonic - "
  | operand => "Invalid operand for "
  | underflow => "Stack underflow at "
  | malformed => "Malformed - "

/-! ## Causes -/

/-- The place in which a type is mentioned. -/
inductive Mention where
  | returnType
  | parameter (name : String)
  | property
  deriving DecidableEq, Repr

/-- The place in words. -/
def Mention.text : Mention → String
  | returnType => "return type"
  | parameter name => "parameter '" ++ name ++ "'"
  | property => "property type"

/-- Why something was refused. -/
inductive Fault where
  /-- A parameter name without a visible character. -/
  | blankName
  /-- A member mentions a type that is not known. -/
  | unknownType (mention : Mention) (type : TypeName)
  | unknownBase (type : TypeName)
  | unknownInterface (type : TypeName)
  | unknownCallable (callable : CallableName)
  | methodRequired
  | bodyRequired
  /-- A forwarding body was planned for another number of parameters. -/
  | plannedCount (callable : CallableName) (planned given : Nat)
  | baseIsInterface (type : TypeName)
  | baseIsSealed (type : TypeName)
  | secondBase (present wanted : TypeName)
  | notAnInterface (type : TypeName)
  /-- Of method and callable, one leaves a value and the other does not. -/
  | returnMismatch (method : ReturnKind) (callable : CallableName) (target : ReturnKind)
  | countMismatch (method : Nat) (callable : CallableName) (target : Nat)
  /-- No adapter binds the callable, and the policy does not let it go unbound. -/
  | unbindable (callable : CallableName) (required : Shape) (owner : Owner)
  | sealedNotAbstract
  | abstractNotSealed
  | noBody (method : String)
  | unknownMnemonic (mnemonic : String)
  | wrongOperand (opcode : OpCode)
  | stackUnderflow (opcode : OpCode) (depth : Nat)
  | notACall (opcode : OpCode)
  | afterReturn (opcode : OpCode)
  | undeclaredLocal (slot : Slot) (opcode : OpCode)
  | tooManyLocals
  | noReturn
  /-- The depth of the stack at the end of a body does not fit its return kind. -/
  | depthAtReturn (method : String) (returns : ReturnKind) (depth : Nat)
  | tooManyToPack (count : Nat)
  | argumentOutOfRange (position : Nat)
  /-- A body's own reason. -/
  | raised (kind : FaultKind) (reason : String)
  deriving DecidableEq, Repr

namespace Fault

/-- The kind of a cause. -/
def kind : Fault → FaultKind
  | blankName | unknownType .. | unknownBase _ | unknownInterface _ | unknownCallable _
  | methodRequired | bodyRequired | plannedCount .. => .argument
  | baseIsInterface _ | baseIsSealed _ | secondBase .. | notAnInterface _ | returnMismatch ..
  | countMismatch .. | unbindable .. => .configuration
  | sealedNotAbstract | abstractNotSealed | noBody _ => .state
  | unknownMnemonic _ => .mnemonic
  | wrongOperand _ => .operand
  | stackUnderflow .. => .underflow
  | notACall _ | afterReturn _ | undeclaredLocal .. | tooManyLocals | noReturn | depthAtReturn ..
  | tooManyToPack _ | argumentOutOfRange _ => .malformed
  | raised kind _ => kind

/-- The cause in words. -/
def reason : Fault → String
  | blankName => "parameter name must not be blank"
  | unknownType mention t => mention.text ++ " has unresolved type " ++ t.full
  | unknownBase t => "base type " ++ t.full ++ " cannot be resolved"
  | unknownInterface t => "interface " ++ t.full ++ " cannot be resolved"
  | unknownCallable c => "callable " ++ c.text ++ " cannot be resolved"
  | methodRequired => "a method descriptor is required"
  | bodyRequired => "a body callback is required"
  | plannedCount c planned given =>
    "forwarding to " ++ c.text ++ " was planned for " ++ toString planned ++ " parameter(s), got " ++
      toString given
  | baseIsInterface t => t.full ++ " is an interface, use declare_interface instead"
  | baseIsSealed t => t.full ++ " is sealed and cannot be inherited"
  | secondBase present wanted =>
    "type already inherits from " ++ present.full ++ ", cannot also inherit from " ++ wanted.full
  | notAnInterface t => t.full ++ " is not an interface, use declare_base_type instead"
  | returnMismatch method c target =>
    "method returning " ++ method.text ++ " cannot forward to " ++ c.text ++ " returning " ++ target.text
  | countMismatch method c target =>
    "method takes " ++ toString method ++ " parameter(s) but " ++ c.text ++ " takes " ++ toString target
  | unbindable c required owner =>
    "instance callable " ++ c.text ++ " cannot be bound to " ++ required.text ++ ": " ++
      (Receiver.unbound required owner).text
  | sealedNotAbstract => "a sealed type cannot be marked abstract"
  | abstractNotSealed => "an abstract type cannot be sealed"
  | noBody method => "method " ++ method ++ " has no body"
  | unknownMnemonic m => m
  | wrongOperand op => "'" ++ op.mnemonic ++ "' - expected " ++ op.operand.describe
  | stackUnderflow op depth => "'" ++ op.mnemonic ++ "' (depth " ++ toString depth ++ ")"
  | notACall op => "instruction '" ++ op.mnemonic ++ "' is not a call instruction"
  | afterReturn op => "instruction '" ++ op.mnemonic ++ "' emitted after ret"
  | undeclaredLocal slot op =>
    "local slot " ++ slot.text ++ " used by '" ++ op.mnemonic ++ "' was never declared"
  | tooManyLocals => "Local slot count exceeds u16 range"
  | noReturn => "method body does not end in ret"
  | depthAtReturn method returns depth =>
    "method " ++ method ++ " returns " ++ returns.text ++ " but leaves " ++ toString depth ++
      " value(s) on the stack at ret"
  | tooManyToPack count => "too many parameters to pack: " ++ toString count
  | argumentOutOfRange position => "argument slot " ++ toString position ++ " out of range"
  | raised _ reason => reason

/-- The message: the lead of the kind, then the cause. -/
def message (f : Fault) : String := f.kind.lead ++ f.reason

end Fault

end TypeSynthesis
