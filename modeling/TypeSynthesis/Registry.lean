/-
TypeSynthesis.Registry — the types and callables that exist already.

A registry starts with the primitives. Types are known by full name and callables by name, each under its
last registration; the two kinds of registration do not touch each other.

Models `TypeRegistry`, which is also the only `TypeInfoProvider` here.

* `Registration` and `Registry.record` — one registration, as data and as an operation.
* `type?_putType`, `callable?_putCallable` — what a registration changes.
-/
import TypeSynthesis.Table
import TypeSynthesis.Callable

namespace TypeSynthesis

/-- The types and callables that exist already. -/
structure Registry where
  types : Table TypeName TypeInfo
  callables : Table CallableName Callable
  deriving Repr

/-- One registration. -/
inductive Registration where
  | typeIn (enclosing simple : String) (info : TypeInfo)
  | type (name : TypeName) (info : TypeInfo)
  | callable (callable : Callable)
  deriving Repr

namespace Registry

/-! ## Building -/

/-- The registry that knows the primitives and no callable. -/
def initial : Registry :=
  ⟨Primitive.all.foldl (fun t p => t.put p.typeName p.info) .empty, .empty⟩

/-- Register a type under its full name. -/
def putType (r : Registry) (name : TypeName) (info : TypeInfo) : Registry :=
  { r with types := r.types.put name info }

/-- Register a callable under its name. -/
def putCallable (r : Registry) (c : Callable) : Registry :=
  { r with callables := r.callables.put c.name c }

/-- Make one registration. -/
def record (r : Registry) : Registration → Registry
  | .typeIn enclosing simple info => r.putType (.ofParts enclosing simple) info
  | .type name info => r.putType name info
  | .callable c => r.putCallable c

/-- Make registrations in order. -/
def recordAll (r : Registry) (regs : List Registration) : Registry := regs.foldl record r

/-! ## Asking -/

/-- The facts of a type, if it is known. -/
def type? (r : Registry) (t : TypeName) : Option TypeInfo := r.types.find? t

/-- The callable of a name, if it is known. -/
def callable? (r : Registry) (c : CallableName) : Option Callable := r.callables.find? c

/-- The type is known. -/
def knows (r : Registry) (t : TypeName) : Bool := (r.type? t).isSome

/-- The type is known to be an interface. -/
def isInterface (r : Registry) (t : TypeName) : Bool := (r.type? t).any (·.isInterface)

/-- The type is known to be sealed. -/
def isSealed (r : Registry) (t : TypeName) : Bool := (r.type? t).any (·.isSealed)

/-- The type is known to be a value type. -/
def isValueType (r : Registry) (t : TypeName) : Bool := (r.type? t).any (·.isValueType)

/-- The handle of a known type, by full name. -/
def typeNamed? (r : Registry) (full : String) : Option TypeName :=
  if r.knows ⟨full⟩ then some ⟨full⟩ else none

/-- The handle of a known callable, by name. -/
def callableNamed? (r : Registry) (name : String) : Option CallableName :=
  if (r.callable? ⟨name⟩).isSome then some ⟨name⟩ else none

/-- The number of known types. -/
def typeCount (r : Registry) : Nat := r.types.size

/-! ## Facts -/

/-- A registration of a type shows under its full name and nowhere else. -/
theorem type?_putType (r : Registry) (t u : TypeName) (info : TypeInfo) :
    (r.putType t info).type? u = if u = t then some info else r.type? u :=
  Table.find?_put ..

/-- A registration of a callable shows under its name and nowhere else. -/
theorem callable?_putCallable (r : Registry) (c : Callable) (d : CallableName) :
    (r.putCallable c).callable? d = if d = c.name then some c else r.callable? d :=
  Table.find?_put ..

@[simp] theorem callable?_putType (r : Registry) (t : TypeName) (info : TypeInfo) (c : CallableName) :
    (r.putType t info).callable? c = r.callable? c := rfl

@[simp] theorem type?_putCallable (r : Registry) (c : Callable) (t : TypeName) :
    (r.putCallable c).type? t = r.type? t := rfl

end Registry

end TypeSynthesis
