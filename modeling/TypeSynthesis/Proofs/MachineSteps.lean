/-
TypeSynthesis.Proofs.MachineSteps — what one instruction can do, and how far
a run comes.

There are thirteen opcodes, and most of what holds of a run follows from
what a single instruction can do to a frame. That is said here once. How far
a run comes is a number of instructions, all of which complete.

* `Frame.after?` — the state of a run after its first so many instructions;
  `after?_induction` — what holds of the first state and is kept by every
  instruction that completes.
* `Frame.StopsAt`, `exists_stop` — where a run stops, and with what.
* `Frame.Advances`, `Frame.Ends` — what an instruction that completes can
  do, and one that does not; `advances_of_step`, `ends_of_step`.
* `step_elsewhere` — most instructions never look at the heap.
-/
import TypeSynthesis.Proofs.HeapReach
import TypeSynthesis.Proofs.MachineRuns

namespace TypeSynthesis

/-- The instruction works on arguments, locals and stack alone. -/
def OpCode.isLocal : OpCode → Bool
  | .newarr | .stelemRef | .invokeLate => false
  | _ => true

/-- The progress with another frame. -/
def Progress.map (φ : Frame → Frame) : Progress → Progress
  | .going g => .going (φ g)
  | .ended result g => .ended result (φ g)

namespace Frame

variable {hosts : Table CallableName Host} {f g : Frame} {i : Instruction}
  {is : List Instruction} {k : Nat}

/-! ## How far a run comes -/

/-- The state of a run after its first so many instructions, if all of them
complete. -/
def after? (hosts : Table CallableName Host) (f : Frame) (is : List Instruction) (k : Nat) :
    Option Frame :=
  f.reach? hosts (is.take k)

@[simp] theorem after?_zero : f.after? hosts is 0 = some f := rfl

theorem after?_succ (hi : is[k]? = some i) :
    f.after? hosts is (k + 1) = some g ↔
      ∃ before, f.after? hosts is k = some before ∧ before.step hosts i = .going g := by
  rw [after?, after?, List.take_add_one, hi, reach?_append_eq, Option.bind_eq_some_iff]
  refine exists_congr fun before => and_congr_right fun _ => ?_
  cases hstep : before.step hosts i with
  | going next => simp [reach?, hstep]
  | ended result last => simp [reach?, hstep]

theorem after?_cons (h : f.step hosts i = .going g) :
    f.after? hosts (i :: is) (k + 1) = g.after? hosts is k :=
  reach?_cons h _

/-- What holds of the first state of a run and is kept by every instruction
that completes holds all along. -/
theorem after?_induction {P : Nat → Frame → Prop} (start : P 0 f)
    (next : ∀ k before i g, P k before → f.after? hosts is k = some before → is[k]? = some i →
      before.step hosts i = .going g → P (k + 1) g)
    (hk : k ≤ is.length) (h : f.after? hosts is k = some g) : P k g := by
  induction k generalizing g with
  | zero =>
    obtain rfl := Option.some.inj h
    exact start
  | succ k ih =>
    have hi : is[k]? = some is[k] := List.getElem?_eq_getElem hk
    obtain ⟨before, hbefore, hstep⟩ := (after?_succ hi).mp h
    exact next k before _ g (ih (Nat.le_of_succ_le hk) hbefore) hbefore hi hstep

/-- The run gets through its first so many instructions and stops there:
behind the last one without a return, at a return, or at an instruction that
traps. -/
inductive StopsAt (hosts : Table CallableName Host) (f : Frame) (is : List Instruction) :
    Nat → Except Trap (Option Value) → Prop where
  | fellOff {g : Frame} (through : f.after? hosts is is.length = some g) :
      StopsAt hosts f is is.length (.error .fellOff)
  | returned {k : Nat} {g last : Frame} {i : Instruction} {v : Option Value}
      (through : f.after? hosts is k = some g) (here : is[k]? = some i)
      (opcode_eq : i.opcode = .ret) (step_eq : g.step hosts i = .ended (.ok v) last) :
      StopsAt hosts f is k (.ok v)
  | trapped {k : Nat} {g last : Frame} {i : Instruction} {trap : Trap}
      (through : f.after? hosts is k = some g) (here : is[k]? = some i)
      (step_eq : g.step hosts i = .ended (.error trap) last) :
      StopsAt hosts f is k (.error trap)

/-! ## One instruction -/

/-- The values that a frame has at hand. -/
def values (f : Frame) : List Value := f.arguments.toList ++ f.locals.toList ++ f.stack

/-- The values with which a run ends: what it returns, or what the trap is
about. -/
def resultValues : Except Trap (Option Value) → List Value
  | .ok v => v.toList
  | .error (.notAPointer v) | .error (.notALength v) | .error (.notPacked v) => [v]
  | .error (.notAnElement array index) => [array, index]
  | .error _ => []

/-- The frame with another heap and other records. -/
def elsewhere (f : Frame) (h : Heap) (ds : List Dispatch) : Frame :=
  { f with heap := h, dispatches := ds }

/-- What an instruction that completes can do: it works on the values at
hand, makes an array, stores into one, or calls late. -/
inductive Advances (hosts : Table CallableName Host) (f : Frame) (i : Instruction) :
    Frame → Prop where
  | worked {g : Frame} (quiet : i.opcode.isLocal = true) (heap_eq : g.heap = f.heap)
      (dispatches_eq : g.dispatches = f.dispatches)
      (values_from : ∀ v ∈ g.values, v.position? = none ∨
        ∃ u ∈ f.values, v.position? = u.position?) :
      Advances hosts f i g
  | made {length : Int32} {rest : List Value} (opcode_eq : i.opcode = .newarr)
      (stack_eq : f.stack = .int32 length :: rest) :
      Advances hosts f i { f with
        stack := .array f.heap.size :: rest
        heap := (f.heap.make (.replicate length.toInt.toNat .null)).2 }
  | stored {v : Value} {index : Int32} {position : Nat} {rest : List Value}
      (opcode_eq : i.opcode = .stelemRef)
      (stack_eq : f.stack = v :: .int32 index :: .array position :: rest) :
      Advances hosts f i { f with
        stack := rest
        heap := f.heap.write position index.toInt.toNat v }
  | called {d : Dispatch} {position : Nat} {rest : List Value} {host : Host}
      (instruction_eq : i = ⟨.invokeLate, .callable d.callable⟩)
      (stack_eq : f.stack = .array position :: d.receiver :: rest)
      (arguments_eq : d.arguments = ((f.heap.items? position).getD #[]).toList)
      (host_eq : hosts.find? d.callable = some host) :
      Advances hosts f i { f with
        stack := (host f.heap d.arguments).value.toList ++ rest
        heap := f.heap.extend (host f.heap d.arguments)
        dispatches := f.dispatches ++ [d] }

theorem mem_values_of_stack {v : Value} (hv : v ∈ f.stack) : v ∈ f.values :=
  List.mem_append_right _ hv

theorem mem_values_of_argument {v : Value} {index : Nat} (hv : f.arguments[index]? = some v) :
    v ∈ f.values := by
  simp [values, Array.mem_of_getElem? hv]

theorem mem_values_of_local {v : Value} {index : Nat} (hv : f.locals[index]? = some v) :
    v ∈ f.values := by
  simp [values, Array.mem_of_getElem? hv]

/-- A value that is moved into a local stays at hand. -/
theorem mem_values_of_storeLocal {v w : Value} {rest : List Value} {index : Nat}
    (hstack : f.stack = v :: rest)
    (hw : w ∈ { f with stack := rest, locals := f.locals.setIfInBounds index v }.values) :
    w ∈ f.values := by
  simp only [values, List.mem_append, Array.toList_setIfInBounds, hstack, List.mem_cons] at hw ⊢
  rcases hw with (hw | hw) | hw
  · exact .inl (.inl hw)
  · rcases List.mem_or_eq_of_mem_set hw with hw | rfl
    · exact .inl (.inr hw)
    · exact .inr (.inl rfl)
  · exact .inr (.inr hw)

/-- A value that is pushed comes from those at hand, or is no array. -/
theorem Advances.of_push {v : Value} {rest : List Value} (quiet : i.opcode.isLocal = true)
    (hrest : ∀ u ∈ rest, u ∈ f.stack)
    (hv : v.position? = none ∨ ∃ u ∈ f.values, v.position? = u.position?)
    (h : f.push v rest = .going g) : f.Advances hosts i g := by
  obtain rfl := Progress.going.inj h
  refine .worked quiet rfl rfl fun w hw => ?_
  rw [values, List.mem_append] at hw
  rcases hw with hw | hw
  · exact .inr ⟨w, List.mem_append_left _ hw, rfl⟩
  · rcases List.mem_cons.mp hw with rfl | hw
    · exact hv
    · exact .inr ⟨w, mem_values_of_stack (hrest w hw), rfl⟩

theorem Advances.of_makeArray (hi : i.opcode = .newarr) (h : f.makeArray = .going g) :
    f.Advances hosts i g := by
  unfold makeArray at h
  split at h
  · cases h
  · rename_i length rest hstack
    split at h
    · cases h
    · obtain rfl := Progress.going.inj h
      exact .made hi hstack
  · cases h

theorem Advances.of_storeElement (hi : i.opcode = .stelemRef) (h : f.storeElement = .going g) :
    f.Advances hosts i g := by
  unfold storeElement at h
  split at h
  · rename_i v index position rest hstack
    split at h
    · cases h
    · split at h
      · obtain rfl := Progress.going.inj h
        exact .stored hi hstack
      · cases h
  · cases h
  · cases h

theorem Advances.of_callLate {c : CallableName} (hi : i = ⟨.invokeLate, .callable c⟩)
    (h : f.callLate hosts c = .going g) : f.Advances hosts i g := by
  unfold callLate at h
  split at h
  · rename_i position receiver rest hstack
    split at h
    · cases h
    · rename_i host hhost
      obtain rfl := Progress.going.inj h
      exact .called (d := ⟨c, receiver, _⟩) hi hstack rfl hhost
  · cases h
  · cases h

theorem advances_of_step (h : f.step hosts i = .going g) : f.Advances hosts i g := by
  have hstays (u : Value) (hu : u ∈ f.stack) : u ∈ f.stack := hu
  obtain ⟨op, operand⟩ := i
  cases op with
  | nop =>
    obtain rfl := Progress.going.inj h
    exact .worked rfl rfl rfl fun v hv => .inr ⟨v, hv, rfl⟩
  | ldnull => exact .of_push rfl hstays (.inl rfl) h
  | ldcI4 =>
    cases operand with
    | int32 v => exact .of_push rfl hstays (.inl rfl) h
    | _ => cases h
  | ldarg =>
    cases operand with
    | argument index =>
      simp only [step] at h
      split at h
      · cases h
      · rename_i v hv
        exact .of_push rfl hstays (.inr ⟨v, mem_values_of_argument hv, rfl⟩) h
    | _ => cases h
  | ldloc =>
    cases operand with
    | slot s =>
      simp only [step] at h
      split at h
      · cases h
      · rename_i v hv
        exact .of_push rfl hstays (.inr ⟨v, mem_values_of_local hv, rfl⟩) h
    | _ => cases h
  | stloc =>
    cases operand with
    | slot s =>
      simp only [step] at h
      split at h
      · cases h
      · rename_i v rest hstack
        split at h
        · obtain rfl := Progress.going.inj h
          exact .worked rfl rfl rfl fun w hw =>
            .inr ⟨w, mem_values_of_storeLocal hstack hw, rfl⟩
        · cases h
    | _ => cases h
  | ldftn =>
    cases operand with
    | callable c => exact .of_push rfl hstays (.inl rfl) h
    | _ => cases h
  | newobj =>
    cases operand with
    | adapter shape =>
      simp only [step] at h
      split at h
      · cases h
      · rename_i c rest hstack
        exact .of_push rfl (fun u hu => by simp [hstack, hu]) (.inl rfl) h
      · cases h
    | _ => cases h
  | newarr =>
    cases operand with
    | type t => exact .of_makeArray rfl h
    | _ => cases h
  | box =>
    cases operand with
    | type t =>
      simp only [step] at h
      split at h
      · cases h
      · rename_i v rest hstack
        have hv : v ∈ f.values := mem_values_of_stack (by simp [hstack])
        exact .of_push rfl (fun u hu => by simp [hstack, show u ∈ rest from hu])
          (.inr ⟨v, hv, Value.position?_boxed v⟩) h
    | _ => cases h
  | stelemRef => exact .of_storeElement rfl h
  | invokeLate =>
    cases operand with
    | callable c => exact .of_callLate rfl h
    | _ => cases h
  | ret => cases h

/-- What an instruction that ends the run can do: it returns, or it traps
and leaves the frame as it was. -/
inductive Ends (f : Frame) (i : Instruction) : Except Trap (Option Value) → Frame → Prop where
  | returned (opcode_eq : i.opcode = .ret) :
      Ends f i (.ok f.stack.head?) { f with stack := f.stack.tail }
  | trapped {t : Trap} (values_from : ∀ v ∈ resultValues (.error t), v ∈ f.stack) :
      Ends f i (.error t) f

variable {result : Except Trap (Option Value)} {last : Frame}

theorem Ends.of_trap {t : Trap} (values_from : ∀ v ∈ resultValues (.error t), v ∈ f.stack)
    (h : f.trap t = .ended result last) : f.Ends i result last := by
  obtain ⟨rfl, rfl⟩ := Progress.ended.inj h
  exact .trapped values_from

/-- Most traps are about no value. -/
theorem Ends.of_plain {t : Trap} (ht : resultValues (.error t) = [])
    (h : f.trap t = .ended result last) : f.Ends i result last :=
  .of_trap (by simp [ht]) h

theorem Ends.of_makeArray (h : f.makeArray = .ended result last) : f.Ends i result last := by
  unfold makeArray at h
  split at h
  · exact .of_plain rfl h
  · split at h
    · exact .of_plain rfl h
    · cases h
  · rename_i hstack
    exact .of_trap (by simp [resultValues, hstack]) h

theorem Ends.of_storeElement (h : f.storeElement = .ended result last) :
    f.Ends i result last := by
  unfold storeElement at h
  split at h
  · split at h
    · exact .of_plain rfl h
    · split at h
      · cases h
      · exact .of_plain rfl h
  · rename_i hstack
    exact .of_trap (by simp [resultValues, hstack]) h
  · exact .of_plain rfl h

theorem Ends.of_callLate {c : CallableName} (h : f.callLate hosts c = .ended result last) :
    f.Ends i result last := by
  unfold callLate at h
  split at h
  · split at h
    · exact .of_plain rfl h
    · cases h
  · rename_i hstack
    exact .of_trap (by simp [resultValues, hstack]) h
  · exact .of_plain rfl h

theorem ends_of_step (h : f.step hosts i = .ended result last) : f.Ends i result last := by
  obtain ⟨op, operand⟩ := i
  cases op with
  | nop => cases h
  | ldnull => cases h
  | ldcI4 =>
    cases operand with
    | int32 v => cases h
    | _ => exact .of_plain rfl h
  | ldarg =>
    cases operand with
    | argument index =>
      simp only [step] at h
      split at h
      · exact .of_plain rfl h
      · cases h
    | _ => exact .of_plain rfl h
  | ldloc =>
    cases operand with
    | slot s =>
      simp only [step] at h
      split at h
      · exact .of_plain rfl h
      · cases h
    | _ => exact .of_plain rfl h
  | stloc =>
    cases operand with
    | slot s =>
      simp only [step] at h
      split at h
      · exact .of_plain rfl h
      · split at h
        · cases h
        · exact .of_plain rfl h
    | _ => exact .of_plain rfl h
  | ldftn =>
    cases operand with
    | callable c => cases h
    | _ => exact .of_plain rfl h
  | newobj =>
    cases operand with
    | adapter shape =>
      simp only [step] at h
      split at h
      · exact .of_plain rfl h
      · cases h
      · rename_i hstack
        exact .of_trap (by simp [resultValues, hstack]) h
    | _ => exact .of_plain rfl h
  | newarr =>
    cases operand with
    | type t => exact .of_makeArray h
    | _ => exact .of_plain rfl h
  | box =>
    cases operand with
    | type t =>
      simp only [step] at h
      split at h
      · exact .of_plain rfl h
      · cases h
    | _ => exact .of_plain rfl h
  | stelemRef => exact .of_storeElement h
  | invokeLate =>
    cases operand with
    | callable c => exact .of_callLate h
    | _ => exact .of_plain rfl h
  | ret =>
    obtain ⟨rfl, rfl⟩ := Progress.ended.inj h
    exact .returned rfl

/-- An instruction that works on arguments, locals and stack alone does the
same with another heap and other records. -/
theorem step_elsewhere (quiet : i.opcode.isLocal = true) (f : Frame) (h : Heap)
    (ds : List Dispatch) :
    (f.elsewhere h ds).step hosts i = (f.step hosts i).map (·.elsewhere h ds) := by
  obtain ⟨op, operand⟩ := i
  obtain ⟨arguments, locals, stack, heap, dispatches⟩ := f
  cases op with
  | newarr => cases quiet
  | stelemRef => cases quiet
  | invokeLate => cases quiet
  | ldarg =>
    cases operand with
    | argument index =>
      simp only [step, elsewhere]
      cases arguments[index.toNat]? <;> rfl
    | _ => rfl
  | ldloc =>
    cases operand with
    | slot s =>
      simp only [step, elsewhere]
      cases locals[s.index.toNat]? <;> rfl
    | _ => rfl
  | stloc =>
    cases operand with
    | slot s =>
      cases stack with
      | nil => rfl
      | cons v rest =>
        by_cases hs : s.index.toNat < locals.size <;>
          simp [step, elsewhere, hs, Progress.map, trap]
    | _ => rfl
  | newobj =>
    cases operand with
    | adapter shape =>
      cases stack with
      | nil => rfl
      | cons v rest => cases v <;> rfl
    | _ => rfl
  | box =>
    cases operand with
    | type t => cases stack <;> rfl
    | _ => rfl
  | _ => cases operand <;> rfl

/-! ## Where a run stops -/

theorem StopsAt.cons (h : f.step hosts i = .going g) (hstop : g.StopsAt hosts is k result) :
    f.StopsAt hosts (i :: is) (k + 1) result := by
  cases hstop with
  | fellOff through => exact .fellOff ((after?_cons h).trans through)
  | returned through here opcode_eq step_eq =>
    exact .returned ((after?_cons h).trans through) here opcode_eq step_eq
  | trapped through here step_eq => exact .trapped ((after?_cons h).trans through) here step_eq

/-- Every run stops somewhere. It leaves the heap and the records that it
came there with, and its result is made of values on the stack. -/
theorem exists_stop (hosts : Table CallableName Host) (f : Frame) (is : List Instruction) :
    ∃ k g, k ≤ is.length ∧ f.after? hosts is k = some g ∧
      f.StopsAt hosts is k (f.run hosts is).1 ∧ (f.run hosts is).2.heap = g.heap ∧
      (f.run hosts is).2.dispatches = g.dispatches ∧
      ∀ v ∈ resultValues (f.run hosts is).1, v ∈ g.stack := by
  induction is generalizing f with
  | nil => exact ⟨0, f, Nat.le_refl 0, rfl, .fellOff rfl, rfl, rfl, by simp [run, resultValues]⟩
  | cons i rest ih =>
    cases hstep : f.step hosts i with
    | going g =>
      obtain ⟨k, last, hk, hafter, hstop, hleft⟩ := ih g
      rw [run_cons hstep]
      exact ⟨k + 1, last, Nat.succ_le_succ hk, (after?_cons hstep).trans hafter,
        hstop.cons hstep, hleft⟩
    | ended result last =>
      rw [run_of_ended hstep]
      cases ends_of_step hstep with
      | returned opcode_eq =>
        exact ⟨0, f, Nat.zero_le _, rfl, .returned rfl rfl opcode_eq hstep, rfl, rfl,
          fun v hv => List.mem_of_mem_head? (by simpa [resultValues] using hv)⟩
      | trapped values_from =>
        exact ⟨0, f, Nat.zero_le _, rfl, .trapped rfl rfl hstep, rfl, rfl, values_from⟩

end Frame

end TypeSynthesis
