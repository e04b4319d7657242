/-
TypeSynthesis.Callable — callables and the adapters that bind them.

An adapter is an object that carries one callable of a fixed shape: an action takes arguments and
leaves nothing behind, a function leaves a result. A callable is static or belongs to an instance, and it
is declared on a type or on an adapter.

Models `AdapterShape`, `DeclaringType` and `CallableInfo`; `Callable.staticMethod`,
`Callable.instanceMethod` and `Callable.ofAdapter` are `static_method`, `instance_method` and
`adapter_invoke`.

* `Shape.ofSignature` — the shape of a signature; `Shape.ofSignature_inj` — it forgets nothing of it.
* `Callable.ofAdapter` — the invoker of an adapter is declared on the shape of its own signature.
-/
import TypeSynthesis.TypeInfo

namespace TypeSynthesis

/-! ## Shapes of adapters -/

/-- The shape of an adapter. -/
inductive Shape where
  | action (parameters : List TypeName)
  | function (parameters : List TypeName) (result : TypeName)
  deriving DecidableEq, Repr

namespace Shape

/-- The shape of a signature: an action when nothing is left behind, else a function. -/
def ofSignature (parameters : List TypeName) : ReturnKind → Shape
  | .void => action parameters
  | .value result => function parameters result

/-- The types of the arguments. -/
def parameters : Shape → List TypeName
  | action ps => ps
  | function ps _ => ps

/-- The type of the result, if there is one. -/
def result? : Shape → Option TypeName
  | action _ => none
  | function _ r => some r

/-- The number of arguments. -/
def arity (s : Shape) : Nat := s.parameters.length

/-- The family name. -/
def family : Shape → String
  | action _ => "Action"
  | function _ _ => "Func"

/-- All types of the shape, the result last. -/
def mentions (s : Shape) : List TypeName := s.parameters ++ s.result?.toList

/-- The written form: the family, then the types in angle brackets if there are any. -/
def text (s : Shape) : String :=
  match s.mentions with
  | [] => s.family
  | ts => s.family ++ "<" ++ ", ".intercalate (ts.map (·.full)) ++ ">"

/-- The shape as it is inspected. -/
def outline (s : Shape) : Text.Outline :=
  let types : Text.Outline := .list (s.parameters.map fun t => .leaf t.inspected)
  match s with
  | action _ => .record "Action" [("parameters", types)] true
  | function _ r => .record "Function" [("parameters", types), ("result", .leaf r.inspected)] true

/-- Two signatures of one shape are the same signature. -/
theorem ofSignature_inj {ps qs : List TypeName} {r s : ReturnKind} :
    ofSignature ps r = ofSignature qs s ↔ ps = qs ∧ r = s := by
  cases r <;> cases s <;> simp [ofSignature]

@[simp] theorem parameters_ofSignature (ps : List TypeName) (r : ReturnKind) :
    (ofSignature ps r).parameters = ps := by cases r <;> rfl

@[simp] theorem result?_ofSignature (ps : List TypeName) (r : ReturnKind) :
    (ofSignature ps r).result? = r.type? := by cases r <;> rfl

end Shape

/-! ## Callables -/

/-- Where a callable is declared. -/
inductive Owner where
  | type (name : TypeName)
  | adapter (shape : Shape)
  deriving DecidableEq, Repr

/-- The written form of an owner. -/
def Owner.text : Owner → String
  | .type t => t.full
  | .adapter s => s.text

/-- What is known of a callable. -/
structure Callable where
  name : CallableName
  isStatic : Bool
  owner : Owner
  parameters : List TypeName
  returns : ReturnKind
  deriving DecidableEq, Repr

namespace Callable

/-- A static method of a type. -/
def staticMethod (name : CallableName) (on : TypeName) (parameters : List TypeName)
    (returns : ReturnKind) : Callable :=
  ⟨name, true, .type on, parameters, returns⟩

/-- An instance method of a type. -/
def instanceMethod (name : CallableName) (on : TypeName) (parameters : List TypeName)
    (returns : ReturnKind) : Callable :=
  ⟨name, false, .type on, parameters, returns⟩

/-- The invoker of an adapter, declared on the shape of its own signature. -/
def ofAdapter (name : CallableName) (parameters : List TypeName) (returns : ReturnKind) : Callable :=
  ⟨name, false, .adapter (.ofSignature parameters returns), parameters, returns⟩

/-- A call leaves a value behind. -/
def returnsValue (c : Callable) : Bool := !c.returns.isVoid

/-- The shape of the adapter on which the callable is declared. -/
def shape? (c : Callable) : Option Shape :=
  match c.owner with
  | .type _ => none
  | .adapter s => some s

end Callable

end TypeSynthesis
