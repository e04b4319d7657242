/-
TypeSynthesis.Proofs.MemberAtomicity — a step on a member happens or does
not.

A step checks before it changes. A refused one leaves the member as it was
and tells nothing but, at most, what was planned. So a chain of steps that
stops is the chain of the steps before.

* `Outcome.Atomic` — refused, an operation keeps its state and is quiet.
* `Constructor.atomic_perform`, `Method.atomic_perform`,
  `Property.atomic_perform` — every step on a member is atomic.
* `Chain.run_append` — a chain behind steps that were all granted.
* `Chain.run_of_stopped` — a chain of atomic steps that stops.
-/
import TypeSynthesis.Member.Constructor
import TypeSynthesis.Member.MethodStep
import TypeSynthesis.Member.Property

namespace TypeSynthesis

/-! ## Atomic operations -/

namespace Outcome

variable {σ α : Type}

/-- If the operation was refused, it left the state from which it started,
and it told nothing but plans. -/
def Atomic (o : Outcome σ α) (start : σ) : Prop :=
  ∀ fault, o.result = .error fault → o.state = start ∧ o.told.atLeast .debug = []

theorem atomic_refuse (fault : Fault) (s : σ) : (refuse fault s : Outcome σ α).Atomic s := by
  intro _ _
  exact ⟨rfl, rfl⟩

theorem atomic_of_ok {o : Outcome σ α} {a : α} (h : o.result = .ok a) (s : σ) : o.Atomic s := by
  intro fault hf
  rw [h] at hf
  cases hf

end Outcome

/-! ## Steps on members -/

theorem Constructor.atomic_takeAll (known : Registry) (c : Constructor) (ps : List Parameter) :
    (c.takeAll known ps).Atomic c := by
  unfold takeAll
  split
  · exact Outcome.atomic_refuse _ c
  · exact Outcome.atomic_of_ok rfl c

theorem Constructor.atomic_perform (known : Registry) (c : Constructor) (step : Step) :
    (c.perform known step).Atomic c := by
  cases step with
  | take p => exact c.atomic_takeAll known [p]
  | takeAll ps => exact c.atomic_takeAll known ps
  | takeNamed name type =>
    simp only [perform, takeNamed]
    split
    · exact Outcome.atomic_refuse _ c
    · exact c.atomic_takeAll known _

/-- A plan that the policy rejects was told, as a trace. -/
theorem Forwarder.atomic_forward (f : Forwarder) (m : Method) (c : CallableName) :
    (f.forward m c).Atomic m := by
  unfold forward
  split
  · exact Outcome.atomic_refuse _ m
  · split
    · intro _ _
      exact ⟨rfl, rfl⟩
    · exact Outcome.atomic_of_ok rfl m

theorem Method.atomic_perform (m : Method) (step : Step) : (m.perform step).Atomic m := by
  cases step with
  | rename name => exact Outcome.atomic_of_ok rfl m
  | rescope scope => exact Outcome.atomic_of_ok rfl m
  | forward f c => exact f.atomic_forward m c
  | attach body => exact Outcome.atomic_of_ok rfl m

theorem Property.atomic_perform (p : Property) (step : Step) : (p.perform step).Atomic p := by
  cases step <;> exact Outcome.atomic_of_ok rfl p

/-! ## Chains -/

namespace Chain

variable {σ τ : Type} {perform : σ → τ → Outcome σ Unit}

/-- Behind steps that were all granted, a chain goes on as from where they
led. -/
theorem run_append {s : σ} {front : List τ} (h : (run perform s front).stopped = none)
    (back : List τ) :
    run perform s (front ++ back) =
      ⟨(run perform (run perform s front).state back).stopped.map
          fun stop => (stop.1 + front.length, stop.2),
        (run perform (run perform s front).state back).state,
        (run perform s front).told ++ (run perform (run perform s front).state back).told⟩ := by
  induction front generalizing s with
  | nil => simp
  | cons step rest ih =>
    cases hr : (perform s step).result with
    | error fault =>
      rw [run_cons_error hr] at h
      cases h
    | ok u =>
      rw [run_cons_ok hr] at h
      rw [List.cons_append, run_cons_ok hr, run_cons_ok hr, ih (Option.map_eq_none_iff.mp h)]
      simp only [Option.map_map, Function.comp_def, List.length_cons, List.append_assoc,
        Nat.add_assoc]

/-- One chain stops where another has gone through, and what they leave
behind is the same. -/
structure StoppedAfter (c done : Chain σ) : Prop where
  done_through : done.stopped = none
  state_eq : c.state = done.state
  told_eq : c.told.atLeast .debug = done.told.atLeast .debug

/-- **A chain that stops** at a step leaves what the steps before it leave;
without the steps after it, it stops just the same. -/
theorem run_of_stopped (atomic : ∀ s step, (perform s step).Atomic s) {s : σ} {steps : List τ}
    {k : Nat} {fault : Fault} (h : (run perform s steps).stopped = some (k, fault)) :
    (run perform s (steps.take (k + 1))).stopped = some (k, fault) ∧
      (run perform s steps).StoppedAfter (run perform s (steps.take k)) := by
  -- The place `k` counts down with the steps, so it is general in the induction.
  induction steps generalizing s k with
  | nil => cases h
  | cons step rest ih =>
    cases hr : (perform s step).result with
    | error f =>
      rw [run_cons_error hr] at h ⊢
      obtain ⟨rfl, rfl⟩ : 0 = k ∧ f = fault := by simpa using h
      obtain ⟨hstate, hquiet⟩ := atomic s step f hr
      rw [List.take_succ_cons, run_cons_error hr]
      exact ⟨rfl, rfl, hstate, hquiet⟩
    | ok u =>
      rw [run_cons_ok hr] at h ⊢
      obtain ⟨⟨j, g⟩, hj, heq⟩ := Option.map_eq_some_iff.mp h
      obtain ⟨rfl, rfl⟩ : j + 1 = k ∧ g = fault := by simpa using heq
      obtain ⟨hstop, hafter⟩ := ih hj
      rw [List.take_succ_cons, run_cons_ok hr, List.take_succ_cons, run_cons_ok hr]
      refine ⟨by simp [hstop], ?_⟩
      constructor
      case done_through => simp [hafter.done_through]
      case state_eq => exact hafter.state_eq
      case told_eq => simp only [Journal.atLeast_append, hafter.told_eq]

end Chain

end TypeSynthesis
