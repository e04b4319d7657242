/-
TypeSynthesis.Proofs.BlueprintHistories — what holds after any history.

A history is a list of operations, each granted or not. What a method is
after it depends on the steps that were taken on it, and on nothing that was
refused.

* `Operation.taken` — the steps on methods that an operation has taken.
* `methods_perform_keeps` — what these steps keep, the operation keeps.
* `performAll_append`, `performAll_concat` — histories in parts.
-/
import TypeSynthesis.Proofs.RefusalAtomicity

namespace TypeSynthesis

/-! ## Steps on methods -/

namespace Operation

/-- The steps on methods that an operation asks for. -/
def methodSteps : Operation → List Method.Step
  | .method _ _ _ steps => steps
  | .forwarding f c steps => .forward f c :: steps
  | op => op.stepOn?.toList.map (·.2)

theorem methodSteps_of_stepOn {op : Operation} {id : Nat} {step : Method.Step}
    (h : op.stepOn? = some (id, step)) : op.methodSteps = [step] := by
  cases op with
  | method | forwarding => cases h
  | _ => simp [methodSteps, h]

/-- The steps on methods that were taken when the answer was this one. -/
def taken (op : Operation) : Except Fault Reply → List Method.Step
  | .error _ => []
  | .ok (.declared ⟨_, some (k, _)⟩) => (op.cut k).methodSteps
  | .ok _ => op.methodSteps

end Operation

namespace Blueprint

variable {b : Blueprint} {op : Operation} {P : Method → Prop}

theorem methods_perform_of_methodSteps (new : ∀ m : Method, m.body = none → P m)
    (keep : ∀ step ∈ op.methodSteps, ∀ m : Method, P m → P (m.perform step).state)
    (h : ∀ m ∈ b.methods, P m) : ∀ m ∈ (b.perform op).state.methods, P m := by
  have heffect := b.effect op
  generalize b.perform op = o at heffect
  intro m hm
  cases heffect with
  | method known =>
    rcases List.mem_append.mp hm with hm | hm
    · exact h m hm
    · obtain rfl := List.mem_singleton.mp hm
      exact Chain.run_keeps keep _ (new _ rfl)
  | @forwarding f c steps target known attached =>
    rcases List.mem_append.mp hm with hm | hm
    · exact h m hm
    · obtain rfl := List.mem_singleton.mp hm
      exact Chain.run_keeps (fun step hstep => keep step (List.mem_cons_of_mem _ hstep)) _
        (keep (.forward f c) List.mem_cons_self _ (new _ rfl))
  | step step on found granted =>
    rcases List.mem_or_eq_of_mem_set hm with hm | rfl
    · exact h m hm
    · exact keep step (by simp [Operation.methodSteps_of_stepOn on]) _
        (h _ (List.mem_of_getElem? found))
  | _ => exact h m hm

/-- What holds of methods without a body and is kept by every step that was
taken holds of every method. -/
theorem methods_perform_keeps (new : ∀ m : Method, m.body = none → P m)
    (keep : ∀ step ∈ op.taken (b.perform op).result, ∀ m : Method, P m → P (m.perform step).state)
    (h : ∀ m ∈ b.methods, P m) : ∀ m ∈ (b.perform op).state.methods, P m := by
  cases hr : (b.perform op).result with
  | error fault => rwa [(b.atomic_perform op fault hr).1]
  | ok reply =>
    rw [hr] at keep
    -- A declaration that stopped is the one with the steps before, which were all taken.
    match reply, hr, keep with
    | .declared ⟨id, some (k, fault)⟩, hr, keep =>
      rw [(stopsAt_of_stopped hr).state_eq]
      exact methods_perform_of_methodSteps new keep h
    | .declared ⟨id, none⟩, _, keep => exact methods_perform_of_methodSteps new keep h
    | .done, _, keep => exact methods_perform_of_methodSteps new keep h
    | .exists _, _, keep => exact methods_perform_of_methodSteps new keep h

/-! ## Histories -/

theorem performAll_append (b : Blueprint) (front back : List Operation) :
    b.performAll (front ++ back) =
      let left := b.performAll front
      ((left.1.performAll back).1, left.2 ++ (left.1.performAll back).2) := by
  induction front generalizing b with
  | nil => rfl
  | cons op rest ih => simp [performAll, ih]

theorem performAll_concat (b : Blueprint) (ops : List Operation) (op : Operation) :
    (b.performAll (ops ++ [op])).1 = ((b.performAll ops).1.perform op).state := by
  rw [performAll_append]
  rfl

theorem registry_performAll (b : Blueprint) (ops : List Operation) :
    (b.performAll ops).1.registry = b.registry := by
  induction ops generalizing b with
  | nil => rfl
  | cons op rest ih => exact (ih _).trans (b.registry_perform op)

end Blueprint

end TypeSynthesis
