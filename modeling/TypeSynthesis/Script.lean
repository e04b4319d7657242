/-
TypeSynthesis.Script — what a body does with an encoder.

The body of a method is not code yet: it is a program that writes code when it is handed an encoder and the
types of the method's parameters. A script is such a program as a tree of requests. After each it hears
whether it was granted, and may go on either way.

Models `MethodBody`.

* `Script` — done, failed, or a request and what follows each answer to it.
* `Script.write`, `Script.declareLocal` — requests that fail when they are refused.
* `Script.run` — the result, the encoder that is left and what was told.
* `run_emit`, `run_declare`, `run_bind` — running follows the tree.
-/
import TypeSynthesis.Encoder

namespace TypeSynthesis

/-- A program that writes to an encoder. -/
inductive Script (α : Type) where
  | done (value : α)
  | fail (fault : Fault)
  | emit (emission : Emission) (next : Except Fault Unit → Script α)
  | declare (purpose : Purpose) (type : LocalType) (next : Except Fault Slot → Script α)
  /-- Look at the encoder. -/
  | look (next : Encoder → Script α)

/-- The body of a method: a script for the types of the method's parameters. -/
abbrev Body := List TypeName → Script Unit

namespace Script

variable {α β : Type}

/-! ## Composition -/

/-- Go on with the value of a script. -/
def bind : Script α → (α → Script β) → Script β
  | done a, f => f a
  | fail fault, _ => fail fault
  | emit m next, f => emit m fun r => (next r).bind f
  | declare p t next, f => declare p t fun r => (next r).bind f
  | look next, f => look fun e => (next e).bind f

instance : Monad Script where
  pure := done
  bind := bind

/-- Write an instruction, or fail when it is refused. -/
def write (m : Emission) : Script Unit :=
  .emit m fun
    | .ok () => .done ()
    | .error fault => .fail fault

/-- Declare a local, or fail when it is refused. -/
def declareLocal (purpose : Purpose) (type : LocalType) : Script Slot :=
  .declare purpose type fun
    | .ok slot => .done slot
    | .error fault => .fail fault

/-- One script after another. -/
def sequence : List (Script Unit) → Script Unit
  | [] => .done ()
  | s :: rest => s.bind fun _ => sequence rest

/-- The script so many times. -/
def times : Nat → Script Unit → Script Unit
  | 0, _ => .done ()
  | n + 1, s => s.bind fun _ => times n s

/-! ## Running -/

/-- Run a script when `told` was told before, the latest event first. -/
def runFrom (told : Journal) : Script α → Encoder → Outcome Encoder α
  | done a, e => ⟨.ok a, e, told.reverse⟩
  | fail fault, e => ⟨.error fault, e, told.reverse⟩
  | emit m next, e =>
    let o := e.write m
    (next o.result).runFrom (o.told.reverse ++ told) o.state
  | declare p t next, e =>
    let o := e.declareLocal p t
    (next o.result).runFrom (o.told.reverse ++ told) o.state
  | look next, e => (next e).runFrom told e

/-- Run a script. -/
def run (s : Script α) (e : Encoder) : Outcome Encoder α := s.runFrom [] e

/-! ## Facts -/

@[simp] theorem pure_eq_done (a : α) : (pure a : Script α) = done a := rfl

@[simp] theorem bind_eq (s : Script α) (f : α → Script β) : (s >>= f) = s.bind f := rfl

/-- What was told before only stands in front. -/
theorem runFrom_eq (s : Script α) (told : Journal) (e : Encoder) :
    s.runFrom told e = ⟨(s.run e).result, (s.run e).state, told.reverse ++ (s.run e).told⟩ := by
  unfold run
  induction s generalizing told e with
  | done a => simp [runFrom]
  | fail f => simp [runFrom]
  | emit m next ih => rw [runFrom, ih, runFrom, ih _ ((e.write m).told.reverse ++ [])]; simp
  | declare p t next ih =>
    rw [runFrom, ih, runFrom, ih _ ((e.declareLocal p t).told.reverse ++ [])]; simp
  | look next ih => rw [runFrom, ih, runFrom]

@[simp] theorem run_done (a : α) (e : Encoder) : (done a : Script α).run e = .accept a e [] := rfl

@[simp] theorem run_fail (f : Fault) (e : Encoder) : (fail f : Script α).run e = .refuse f e := rfl

/-- An instruction is written, and the script goes on with the answer. -/
theorem run_emit (m : Emission) (next : Except Fault Unit → Script α) (e : Encoder) :
    (emit m next).run e =
      let o := e.write m
      let rest := (next o.result).run o.state
      ⟨rest.result, rest.state, o.told ++ rest.told⟩ := by
  rw [run, runFrom, runFrom_eq]; simp

/-- A local is declared, and the script goes on with the answer. -/
theorem run_declare (p : Purpose) (t : LocalType) (next : Except Fault Slot → Script α) (e : Encoder) :
    (declare p t next).run e =
      let o := e.declareLocal p t
      let rest := (next o.result).run o.state
      ⟨rest.result, rest.state, o.told ++ rest.told⟩ := by
  rw [run, runFrom, runFrom_eq]; simp

/-- A look at the encoder changes nothing. -/
@[simp] theorem run_look (next : Encoder → Script α) (e : Encoder) :
    (look next).run e = (next e).run e := rfl

/-- A composition runs its first part, and its second only on success. -/
theorem run_bind (s : Script α) (f : α → Script β) (e : Encoder) :
    (s.bind f).run e =
      match (s.run e).result with
      | .ok a =>
        let rest := (f a).run (s.run e).state
        ⟨rest.result, rest.state, (s.run e).told ++ rest.told⟩
      | .error fault => ⟨.error fault, (s.run e).state, (s.run e).told⟩ := by
  induction s generalizing e with
  | done a => simp [bind]
  | fail fault => simp [bind, Outcome.refuse]
  | emit m next ih =>
    simp only [bind, run_emit, ih]
    split <;> simp
  | declare p t next ih =>
    simp only [bind, run_declare, ih]
    split <;> simp
  | look next ih => simpa [bind] using ih e e

end Script

end TypeSynthesis
