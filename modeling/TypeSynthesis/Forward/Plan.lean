/-
TypeSynthesis.Forward.Plan — the decisions behind a body that forwards.

To forward is to pass every argument of a method to a callable and to return what it leaves. Method and
callable must agree on leaving a value or not and on the number of parameters; parameter types and the
type of the value are not compared.

Models `ForwardPlan`, as `BodyEmitter` makes it.

* `Plan.make` — the plan, or the first disagreement.
* `Plan.make_eq_ok_iff` — when there is a plan, and what it says.
-/
import TypeSynthesis.Member.Method
import TypeSynthesis.Registry

namespace TypeSynthesis

/-- The decisions behind a body that forwards. -/
structure Plan where
  callable : CallableName
  receiver : Receiver
  /-- The types of the method's parameters. -/
  parameters : List TypeName
  /-- The call leaves a value. -/
  returnsValue : Bool
  deriving DecidableEq, Repr

namespace Plan

/-- The plan to forward a method to a callable that the registry knows. -/
def make (known : Registry) (m : Method) (c : CallableName) : Except Fault Plan :=
  match known.callable? c with
  | none => .error (.unknownCallable c)
  | some target =>
    if m.returns.isVoid ≠ target.returns.isVoid then
      .error (.returnMismatch m.returns c target.returns)
    else if m.parameters.length ≠ target.parameters.length then
      .error (.countMismatch m.parameters.length c target.parameters.length)
    else .ok ⟨c, .choose target m.parameterTypes, m.parameterTypes, target.returnsValue⟩

/-- There is a plan exactly when the callable is known and agrees with the method; it binds the receiver
that the method's parameter types ask for. -/
theorem make_eq_ok_iff (known : Registry) (m : Method) (c : CallableName) (plan : Plan) :
    make known m c = .ok plan ↔
      ∃ target, known.callable? c = some target ∧ m.returns.isVoid = target.returns.isVoid ∧
        m.parameters.length = target.parameters.length ∧
        plan = ⟨c, .choose target m.parameterTypes, m.parameterTypes, target.returnsValue⟩ := by
  unfold make
  cases known.callable? c with
  | none => simp
  | some target =>
    by_cases hv : m.returns.isVoid = target.returns.isVoid <;>
      by_cases hn : m.parameters.length = target.parameters.length <;> simp [hv, hn, eq_comm]

end Plan

end TypeSynthesis
