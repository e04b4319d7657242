/-
TypeSynthesis.Event — what is worth telling while types are described and bodies are written.

Operations report events as data. An event has a level, and its text is made only when somebody reads it.

Models what `TypeDescriptor`, its members, `InstructionEncoder` and `BodyEmitter` write to the log.

* `Event` — one constructor for each thing that is told.
* `Event.level`, `Event.message` — how grave it is, and the text.
* `Journal.atLeast` — the events of a level or a graver one, in order.
-/
import TypeSynthesis.Member.Parameter

namespace TypeSynthesis

/-! ## Levels -/

/-- How grave an event is. -/
inductive Level where
  | trace
  | debug
  | warn
  deriving DecidableEq, Repr

namespace Level

/-- Higher is graver. -/
def rank : Level → Nat
  | trace => 0
  | debug => 1
  | warn => 2

/-- The written form. -/
def text : Level → String
  | trace => "trace"
  | debug => "debug"
  | warn => "warn"

end Level

/-! ## Events -/

/-- What is told. Types and methods go by the name that they had at the time. -/
inductive Event where
  | emitted (instruction : Instruction)
  | localDeclared (slot : Slot) (purpose : Purpose) (type : LocalType)
  | planned (callable : CallableName) (receiver : Receiver)
  | markedAbstract (type : String)
  | markedSealed (type : String)
  | extended (type : String) (base : TypeName)
  | implemented (type : String) (interface : TypeName)
  | parameterTaken (constructor : Nat) (parameter : Parameter)
  | bodyAttached (method : String)
  | bodyReplaced (method : String)
  | sentToNull (callable : CallableName) (receiver : Receiver)
  deriving DecidableEq, Repr

/-- Events in the order in which they happened. -/
abbrev Journal := List Event

namespace Event

/-- How grave the event is. -/
def level : Event → Level
  | emitted _ | localDeclared .. | planned .. => .trace
  | markedAbstract _ | markedSealed _ | extended .. | implemented .. | parameterTaken ..
  | bodyAttached _ => .debug
  | bodyReplaced _ | sentToNull .. => .warn

/-- The text of the event. -/
def message : Event → String
  | emitted i => "emit " ++ i.text
  | localDeclared slot purpose type =>
    "declare local " ++ slot.text ++ " (" ++ purpose.text ++ "): " ++ type.text
  | planned c receiver => "forward plan for " ++ c.text ++ ": " ++ receiver.text
  | markedAbstract t => "type " ++ t ++ " marked abstract"
  | markedSealed t => "type " ++ t ++ " sealed"
  | extended t base => "type " ++ t ++ " extends " ++ base.full
  | implemented t interface => "type " ++ t ++ " implements " ++ interface.full
  | parameterTaken id p => "constructor #" ++ toString id ++ " takes " ++ p.text
  | bodyAttached m => "body attached to method " ++ m
  | bodyReplaced m => "replacing body of method " ++ m
  | sentToNull c receiver =>
    "callable " ++ c.text ++ " dispatched with a null receiver: " ++ receiver.text

end Event

/-- The events of the level or a graver one, in order. -/
def Journal.atLeast (level : Level) (journal : Journal) : Journal :=
  journal.filter fun e => level.rank ≤ e.level.rank

theorem Journal.atLeast_append (level : Level) (j k : Journal) :
    Journal.atLeast level (j ++ k) = j.atLeast level ++ k.atLeast level :=
  List.filter_append ..

end TypeSynthesis
