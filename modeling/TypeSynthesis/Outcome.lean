/-
TypeSynthesis.Outcome — what an operation on a state gives.

An operation gives a result or a fault, the state that it leaves in either case, and what it tells. A
refusal may still leave another state behind; where an operation promises more, that is a theorem about it.

Models a call that may fail, and the chains of builder calls that end at the first failure.

* `Outcome.refuse`, `Outcome.accept` — a refusal without trace, and an acceptance.
* `Chain.run` — operations one after another up to the first refusal.
-/
import TypeSynthesis.Event

namespace TypeSynthesis

/-- The result of an operation, the state that it leaves and what it tells. -/
structure Outcome (σ α : Type) where
  result : Except Fault α
  state : σ
  told : Journal

namespace Outcome

variable {σ α β : Type}

/-- A refusal that leaves the state as it is and tells nothing. -/
def refuse (fault : Fault) (state : σ) : Outcome σ α := ⟨.error fault, state, []⟩

/-- An acceptance. -/
def accept (value : α) (state : σ) (told : Journal) : Outcome σ α := ⟨.ok value, state, told⟩

/-- The operation was accepted. -/
def accepted (o : Outcome σ α) : Bool := o.result.isOk

/-- The outcome with another value in its result. -/
def map (f : α → β) (o : Outcome σ α) : Outcome σ β := ⟨o.result.map f, o.state, o.told⟩

@[simp] theorem result_refuse (f : Fault) (s : σ) : (refuse f s : Outcome σ α).result = .error f := rfl
@[simp] theorem state_refuse (f : Fault) (s : σ) : (refuse f s : Outcome σ α).state = s := rfl
@[simp] theorem told_refuse (f : Fault) (s : σ) : (refuse f s : Outcome σ α).told = [] := rfl
@[simp] theorem result_accept (a : α) (s : σ) (j : Journal) : (accept a s j).result = .ok a := rfl
@[simp] theorem state_accept (a : α) (s : σ) (j : Journal) : (accept a s j).state = s := rfl
@[simp] theorem told_accept (a : α) (s : σ) (j : Journal) : (accept a s j).told = j := rfl

@[simp] theorem accepted_refuse (f : Fault) (s : σ) : (refuse f s : Outcome σ α).accepted = false := rfl
@[simp] theorem accepted_accept (a : α) (s : σ) (j : Journal) : (accept a s j).accepted = true := rfl

end Outcome

/-! ## Chains -/

/-- What a chain of operations gives: where and why it stopped, if it did, the state that it leaves and
what it tells. -/
structure Chain (σ : Type) where
  stopped : Option (Nat × Fault)
  state : σ
  told : Journal

namespace Chain

variable {σ τ : Type}

/-- Perform the steps in order up to the first one that is refused. -/
def run (perform : σ → τ → Outcome σ Unit) : σ → List τ → Chain σ
  | s, [] => ⟨none, s, []⟩
  | s, step :: rest =>
    let o := perform s step
    match o.result with
    | .error fault => ⟨some (0, fault), o.state, o.told⟩
    | .ok () =>
      let c := run perform o.state rest
      ⟨c.stopped.map fun stop => (stop.1 + 1, stop.2), c.state, o.told ++ c.told⟩

@[simp] theorem run_nil (perform : σ → τ → Outcome σ Unit) (s : σ) : run perform s [] = ⟨none, s, []⟩ := rfl

theorem run_cons_ok {perform : σ → τ → Outcome σ Unit} {s : σ} {step : τ}
    (h : (perform s step).result = .ok ()) (rest : List τ) :
    run perform s (step :: rest) =
      let c := run perform (perform s step).state rest
      ⟨c.stopped.map fun stop => (stop.1 + 1, stop.2), c.state, (perform s step).told ++ c.told⟩ := by
  rw [run, h]

theorem run_cons_error {perform : σ → τ → Outcome σ Unit} {s : σ} {step : τ} {fault : Fault}
    (h : (perform s step).result = .error fault) (rest : List τ) :
    run perform s (step :: rest) =
      ⟨some (0, fault), (perform s step).state, (perform s step).told⟩ := by
  rw [run, h]

/-- What each of the steps keeps, the chain keeps. -/
theorem run_keeps {perform : σ → τ → Outcome σ Unit} {P : σ → Prop} {steps : List τ}
    (keep : ∀ step ∈ steps, ∀ s, P s → P (perform s step).state) (s : σ) (h : P s) :
    P (run perform s steps).state := by
  induction steps generalizing s with
  | nil => exact h
  | cons step rest ih =>
    have hstep := keep step List.mem_cons_self s h
    cases hr : (perform s step).result with
    | error fault => rwa [run_cons_error hr]
    | ok u =>
      rw [run_cons_ok hr]
      exact ih (fun t ht => keep t (List.mem_cons_of_mem step ht)) _ hstep

end Chain

end TypeSynthesis
