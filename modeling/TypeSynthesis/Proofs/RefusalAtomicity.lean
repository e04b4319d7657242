/-
TypeSynthesis.Proofs.RefusalAtomicity — what is refused leaves no trace.

A refused operation leaves the blueprint as it was, down to the bodies of
its methods, and tells nothing but, at most, what was planned. A declaration
goes on with steps on the new member and stops at the first one that is
refused; then it is as if it had been made with the steps before that one.

* `atomic_perform` — every operation on a blueprint is atomic.
* `Operation.cut`, `stopsAt_of_stopped` — a declaration that stops.
* `refused_traceless` — both, for every operation.
-/
import TypeSynthesis.Proofs.BlueprintEffects

namespace TypeSynthesis

/-- The declaration with its first steps only; other operations have no
steps. -/
def Operation.cut (k : Nat) : Operation → Operation
  | .constructor scope steps => .constructor scope (steps.take k)
  | .method name returns parameters steps => .method name returns parameters (steps.take k)
  | .forwarding f c steps => .forwarding f c (steps.take k)
  | .property type name scope steps => .property type name scope (steps.take k)
  | op => op

namespace Blueprint

variable {b : Blueprint} {op : Operation} {id k : Nat} {fault : Fault}

/-- **Every operation is atomic.** -/
theorem atomic_perform (b : Blueprint) (op : Operation) : (b.perform op).Atomic b := by
  have heffect := b.effect op
  generalize b.perform op = o at heffect
  cases heffect with
  | refused quiet =>
    intro _ _
    exact ⟨rfl, quiet⟩
  | _ => exact Outcome.atomic_of_ok rfl b

/-- The declaration stops at a step, whatever follows it, and what it leaves
is what the steps before that one leave. -/
structure StopsAt (b : Blueprint) (op : Operation) (id k : Nat) (fault : Fault) : Prop where
  stops : (b.perform (op.cut (k + 1))).result = .ok (.declared ⟨id, some (k, fault)⟩)
  before_through : (b.perform (op.cut k)).result = .ok (.declared ⟨id, none⟩)
  state_eq : (b.perform op).state = (b.perform (op.cut k)).state
  told_eq : (b.perform op).told.atLeast .debug = (b.perform (op.cut k)).told.atLeast .debug

/-- A declaration that hands its new member to a chain of steps stops where
the chain does. -/
theorem stopsAt_of_chain {σ τ : Type} {step : σ → τ → Outcome σ Unit}
    (atomic : ∀ s t, (step s t).Atomic s) {start : σ} {number : Nat} {add : σ → Blueprint}
    {told : Journal} (declare : List τ → Operation)
    (hcut : ∀ steps j, (declare steps).cut j = declare (steps.take j))
    (hperform : ∀ steps, b.perform (declare steps) =
      declaring number add told (Chain.run step start steps)) {steps : List τ}
    (h : (declaring number add told (Chain.run step start steps)).result =
      .ok (.declared ⟨id, some (k, fault)⟩)) :
    b.StopsAt (declare steps) id k fault := by
  obtain ⟨rfl, hstop⟩ : number = id ∧ (Chain.run step start steps).stopped = some (k, fault) := by
    simpa [declaring] using h
  obtain ⟨hagain, hafter⟩ := Chain.run_of_stopped atomic hstop
  constructor
  case stops => simp [declaring, hcut, hperform, hagain]
  case before_through => simp [declaring, hcut, hperform, hafter.done_through]
  case state_eq => simp [declaring, hcut, hperform, hafter.state_eq]
  case told_eq => simp [declaring, hcut, hperform, Journal.atLeast_append, hafter.told_eq]

theorem stopsAt_of_stopped (h : (b.perform op).result = .ok (.declared ⟨id, some (k, fault)⟩)) :
    b.StopsAt op id k fault := by
  have heffect := b.effect op
  generalize b.perform op = o at heffect h
  cases heffect with
  | constructor scope steps =>
    exact stopsAt_of_chain (Constructor.atomic_perform b.registry) (.constructor scope)
      (fun _ _ => rfl) (b.perform_constructor scope) h
  | @method name returns parameters steps known =>
    exact stopsAt_of_chain Method.atomic_perform (.method name returns parameters)
      (fun _ _ => rfl) (perform_method known name) h
  | @forwarding f c steps target known attached =>
    exact stopsAt_of_chain Method.atomic_perform (.forwarding f c)
      (fun _ _ => rfl) (perform_forwarding known attached) h
  | @property type name scope steps known =>
    exact stopsAt_of_chain Property.atomic_perform (.property type name scope)
      (fun _ _ => rfl) (perform_property known name scope) h
  | step step on found granted nothing_new => exact absurd (Except.ok.inj h) (nothing_new _)
  | _ => cases h

/-- **What is refused leaves no trace.** A refused operation leaves the
blueprint as it was, in every field and every member, bodies included, and
tells nothing as grave as a debug event. When a declaration stops at a step,
it stops there whatever would follow, and it leaves and tells what the
declaration with the steps before that one does, which goes through. -/
theorem refused_traceless (b : Blueprint) (op : Operation) :
    (∀ fault, (b.perform op).result = .error fault →
      (b.perform op).state = b ∧ (b.perform op).told.atLeast .debug = []) ∧
    ∀ id k fault, (b.perform op).result = .ok (.declared ⟨id, some (k, fault)⟩) →
      (b.perform (op.cut (k + 1))).result = .ok (.declared ⟨id, some (k, fault)⟩) ∧
      (b.perform (op.cut k)).result = .ok (.declared ⟨id, none⟩) ∧
      (b.perform op).state = (b.perform (op.cut k)).state ∧
      (b.perform op).told.atLeast .debug = (b.perform (op.cut k)).told.atLeast .debug := by
  refine ⟨b.atomic_perform op, fun id k fault h => ?_⟩
  have hstops := stopsAt_of_stopped h
  exact ⟨hstops.stops, hstops.before_through, hstops.state_eq, hstops.told_eq⟩

end Blueprint

end TypeSynthesis
