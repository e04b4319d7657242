/-
TypeSynthesis.Forward.Receiver — what a call is dispatched on.

A static callable is dispatched on null. A callable of an instance is dispatched on an adapter, and only an
adapter of one shape will do: the shape of the arguments that are passed and of what the callable leaves.
Where the callable is not declared on that very shape, it stays unbound.

Models `AdapterOutcome` and `UnboundReceiver`.

* `Receiver.choose` — the decision; `Receiver.choose_eq_adapter_iff` — when an adapter is bound.
* `UnboundPolicy` — what to do about an unbound callable.
-/
import TypeSynthesis.Callable

namespace TypeSynthesis

/-- What a call is dispatched on. -/
inductive Receiver where
  | static
  | adapter (shape : Shape)
  | unbound (required : Shape) (owner : Owner)
  deriving DecidableEq, Repr

/-- What to do about a callable of an instance that no adapter binds. -/
inductive UnboundPolicy where
  | reject
  | nullReceiver
  deriving DecidableEq, Repr

namespace Receiver

/-- The receiver for a callable to which arguments of the given types are passed. -/
def choose (c : Callable) (arguments : List TypeName) : Receiver :=
  if c.isStatic then .static
  else
    let required := Shape.ofSignature arguments c.returns
    if c.shape? = some required then .adapter required else .unbound required c.owner

/-- The written form. -/
def text : Receiver → String
  | static => "static"
  | adapter shape => "adapter " ++ shape.text
  | unbound required owner =>
    "skipped (requires " ++ required.text ++ ", declared on " ++ owner.text ++ ")"

/-- An adapter is bound exactly when the callable belongs to an instance and is declared on the shape that
the arguments ask for. -/
theorem choose_eq_adapter_iff (c : Callable) (arguments : List TypeName) (shape : Shape) :
    choose c arguments = .adapter shape ↔
      c.isStatic = false ∧ c.owner = .adapter shape ∧ shape = .ofSignature arguments c.returns := by
  unfold choose Callable.shape?
  cases c.isStatic <;> cases c.owner <;> simp
  split <;> simp_all [eq_comm]

/-- A static callable needs no adapter, whatever is passed. -/
theorem choose_eq_static_iff (c : Callable) (arguments : List TypeName) :
    choose c arguments = .static ↔ c.isStatic = true := by
  unfold choose
  cases c.isStatic <;> simp
  split <;> simp

end Receiver

end TypeSynthesis
