/-
TypeSynthesis.Member.MethodStep — the steps that follow the declaration of a method.

Models `MethodBuilder`.

* `Method.Step`, `Method.perform` — rename, change the scope, forward to a callable, attach a body.
* `perform_keeps` — no step changes the id, the return kind or the parameters.
-/
import TypeSynthesis.Forward.Forwarder

namespace TypeSynthesis

namespace Method

/-- A step that follows the declaration of a method. -/
inductive Step where
  | rename (name : String)
  | rescope (scope : Scope)
  | forward (forwarder : Forwarder) (callable : CallableName)
  | attach (body : Body)

/-- Perform a step. -/
def perform (m : Method) : Step → Outcome Method Unit
  | .rename name => .accept () { m with name := some name } []
  | .rescope scope => .accept () { m with visibility := scope } []
  | .forward forwarder c => forwarder.forward m c
  | .attach body => m.attach body

/-- Forwarding sets the body of the method or changes nothing. -/
theorem state_forward (f : Forwarder) (m : Method) (c : CallableName) :
    (f.forward m c).state = m ∨ ∃ body, (f.forward m c).state = { m with body := some body } := by
  unfold Forwarder.forward
  cases Plan.make f.registry m c with
  | error fault => exact .inl rfl
  | ok p =>
    cases ha : f.allow p with
    | error fault => exact .inl (by simp only [ha])
    | ok warned => exact .inr ⟨f.thunk p, by simp only [ha, state_attach]⟩

/-- No step changes the id, the return kind or the parameters. -/
theorem perform_keeps (m : Method) (step : Step) :
    (m.perform step).state.id = m.id ∧ (m.perform step).state.returns = m.returns ∧
      (m.perform step).state.parameters = m.parameters := by
  cases step with
  | rename name => exact ⟨rfl, rfl, rfl⟩
  | rescope scope => exact ⟨rfl, rfl, rfl⟩
  | attach body => exact ⟨rfl, rfl, rfl⟩
  | forward f c =>
    rcases state_forward f m c with h | ⟨body, h⟩ <;> exact ⟨by simp [perform, h], by simp [perform, h],
      by simp [perform, h]⟩

end Method

end TypeSynthesis
