/-
TypeSynthesis.Proofs.MachineRuns — runs in parts.

A run goes through its instructions in order, so it can be cut at any
instruction that it comes to. `Frame.reach?` is the state in which it gets
there.

* `run_append` — what a run gives is what the rest of it gives, from the
  state that it reaches.
* `reach?_append_eq`, `reach?_append` — reaching is one part after the other.
* `run_of_ended` — a run that ends within its first part never sees the
  second.
-/
import TypeSynthesis.Machine.Basic

namespace TypeSynthesis.Frame

variable {hosts : Table CallableName Host}

/-- The state of a run after some instructions, if it comes that far. -/
def reach? (hosts : Table CallableName Host) : Frame → List Instruction → Option Frame
  | f, [] => some f
  | f, i :: rest =>
    match f.step hosts i with
    | .going g => g.reach? hosts rest
    | .ended .. => none

@[simp] theorem reach?_nil (f : Frame) : f.reach? hosts [] = some f := rfl

theorem reach?_cons {f g : Frame} {i : Instruction} (h : f.step hosts i = .going g)
    (rest : List Instruction) : f.reach? hosts (i :: rest) = g.reach? hosts rest := by
  simp [reach?, h]

theorem run_cons {f g : Frame} {i : Instruction} (h : f.step hosts i = .going g)
    (rest : List Instruction) : f.run hosts (i :: rest) = g.run hosts rest := by
  simp [run, h]

theorem run_of_ended {f g : Frame} {i : Instruction} {result : Except Trap (Option Value)}
    (h : f.step hosts i = .ended result g) (rest : List Instruction) :
    f.run hosts (i :: rest) = (result, g) := by
  simp [run, h]

/-- To come through two parts is to come through the first and from there
through the second. -/
theorem reach?_append_eq (f : Frame) (front back : List Instruction) :
    f.reach? hosts (front ++ back) = (f.reach? hosts front).bind (·.reach? hosts back) := by
  induction front generalizing f with
  | nil => rfl
  | cons i rest ih =>
    rw [List.cons_append, reach?, reach?]
    cases f.step hosts i with
    | going k => exact ih k
    | ended result k => rfl

theorem reach?_append {f g : Frame} {front : List Instruction}
    (h : f.reach? hosts front = some g) (back : List Instruction) :
    f.reach? hosts (front ++ back) = g.reach? hosts back := by
  rw [reach?_append_eq, h, Option.bind_some]

/-- The rest of a run decides what it gives. -/
theorem run_append {f g : Frame} {front : List Instruction}
    (h : f.reach? hosts front = some g) (back : List Instruction) :
    f.run hosts (front ++ back) = g.run hosts back := by
  induction front generalizing f with
  | nil => cases h; rfl
  | cons i rest ih =>
    cases hs : f.step hosts i with
    | going k =>
      rw [reach?_cons hs] at h
      rw [List.cons_append, run_cons hs, ih h]
    | ended result k => simp [reach?, hs] at h

end TypeSynthesis.Frame
