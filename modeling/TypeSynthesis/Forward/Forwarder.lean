/-
TypeSynthesis.Forward.Forwarder — attaching bodies that forward.

A forwarder knows existing types and callables, what to do about a callable that no adapter binds, and
whether values are boxed on the way.

Models `BodyEmitter` with its `EmitterConfig`.

* `Forwarder.plan` — the plan for a method, and that it was made.
* `Forwarder.forward` — attach the body; a refused one leaves the method as it was
  (`state_forward_of_error`).
* `Forwarder.emit` — write the body of a plan without attaching it.
-/
import TypeSynthesis.Forward.Thunk

namespace TypeSynthesis

/-- What attaches bodies that forward. -/
structure Forwarder where
  registry : Registry
  policy : UnboundPolicy
  boxesValues : Bool

namespace Forwarder

/-- A forwarder that rejects unbound callables and boxes values. -/
def standard (registry : Registry) : Forwarder := ⟨registry, .reject, true⟩

/-- Values of the type are boxed. -/
def boxes (f : Forwarder) (type : TypeName) : Bool := f.boxesValues && f.registry.isValueType type

/-- The body of a plan. -/
def thunk (f : Forwarder) (plan : Plan) : Body := plan.thunk f.boxes

/-- Plan to forward a method; nothing changes. -/
def plan (f : Forwarder) (m : Method) (c : CallableName) : Outcome Method Plan :=
  match Plan.make f.registry m c with
  | .error fault => .refuse fault m
  | .ok p => .accept p m [.planned c p.receiver]

/-- What the policy says to a plan: a fault, or what is worth telling. -/
def allow (f : Forwarder) (p : Plan) : Except Fault Journal :=
  match p.receiver, f.policy with
  | .unbound required owner, .reject => .error (.unbindable p.callable required owner)
  | .unbound .., .nullReceiver => .ok [.sentToNull p.callable p.receiver]
  | _, _ => .ok []

/-- Attach to a method the body that forwards to a callable. -/
def forward (f : Forwarder) (m : Method) (c : CallableName) : Outcome Method Unit :=
  match Plan.make f.registry m c with
  | .error fault => .refuse fault m
  | .ok p =>
    match f.allow p with
    | .error fault => ⟨.error fault, m, [.planned c p.receiver]⟩
    | .ok warned =>
      let attached := m.attach (f.thunk p)
      ⟨attached.result, attached.state, .planned c p.receiver :: (warned ++ attached.told)⟩

/-- Write the body of a plan for the planned parameters. -/
def emit (f : Forwarder) (p : Plan) (e : Encoder) : Outcome Encoder Unit :=
  (f.thunk p p.parameters).run e

/-! ## Facts -/

/-- A refused body leaves the method as it was. -/
theorem state_forward_of_error {f : Forwarder} {m : Method} {c : CallableName} {fault : Fault}
    (h : (f.forward m c).result = .error fault) : (f.forward m c).state = m := by
  unfold forward at h ⊢
  cases hp : Plan.make f.registry m c with
  | error g => rfl
  | ok p =>
    cases ha : f.allow p with
    | error g => simp only [ha]
    | ok warned => simp [hp, ha] at h

/-- A body is attached exactly when there is a plan and the policy allows it. -/
theorem result_forward_eq_ok_iff (f : Forwarder) (m : Method) (c : CallableName) :
    (f.forward m c).result = .ok () ↔
      ∃ p warned, Plan.make f.registry m c = .ok p ∧ f.allow p = .ok warned := by
  unfold forward
  cases Plan.make f.registry m c with
  | error g => simp
  | ok p => cases h : f.allow p <;> simp [h]

end Forwarder

end TypeSynthesis
