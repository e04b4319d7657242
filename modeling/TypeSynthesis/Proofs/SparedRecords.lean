/-
TypeSynthesis.Proofs.SparedRecords — earlier records are left alone.

Arrays are shared, so what a run stores might be seen in a record of an
earlier run. It is not, as long as nothing leads the run to an array that an
earlier record holds: none of its arguments, and nothing that a host leaves.
A run that starts without such arrays never comes by one.

* `Machine.Holds` — the arrays that the records of a machine hold.
* `Frame.Spares`, `Spares.step`, `spares_after?` — a frame that has none of
  them at hand, and a run that starts so.
* `Frame.AtCall`, `Frame.Records`, `records_after?` — one record for each
  late call that completes, in order.
-/
import Mathlib.Data.List.Forall2
import TypeSynthesis.Proofs.MachineSteps

namespace TypeSynthesis

/-- The values in the record of a call. -/
def Dispatch.values (d : Dispatch) : List Value := d.receiver :: d.arguments

/-- Some record of the machine holds the array. -/
def Machine.Holds (m : Machine) (p : Nat) : Prop :=
  ∃ d ∈ m.dispatches, ∃ v ∈ d.values, m.heap.Holds v p

namespace Frame

variable {m : Machine} {f g : Frame} {i : Instruction} {is : List Instruction} {k : Nat}

/-! ## Late calls -/

/-- The frame is at a late call that is recorded so, if it completes: the
array of the arguments is on the stack, and the receiver below it. -/
def AtCall (f : Frame) (i : Instruction) (d : Dispatch) : Prop :=
  ∃ position items rest, i = ⟨.invokeLate, .callable d.callable⟩ ∧
    f.stack = .array position :: d.receiver :: rest ∧
    f.heap.items? position = some items ∧ d.arguments = items.toList

/-- The record is that of the late call at a place of a run, made when the
run came there. -/
def Records (hosts : Table CallableName Host) (f : Frame) (is : List Instruction) (n : Nat)
    (d : Dispatch) : Prop :=
  ∃ g i, f.after? hosts is n = some g ∧ is[n]? = some i ∧ g.AtCall i d

/-- The places of the late calls among the first so many instructions, in
order. -/
def calls (is : List Instruction) (k : Nat) : List Nat :=
  (List.range k).filter fun n => is[n]?.map (·.opcode) = some .invokeLate

/-! ## Sparing earlier records -/

/-- The frame has no array at hand that a record of the machine holds, nor
has it put one into a new record. The arrays of the earlier records are
there and as they were. -/
structure Spares (m : Machine) (f : Frame) : Prop where
  values_apart : ∀ v ∈ f.values, f.heap.Apart m.Holds v
  recorded : ∃ new, f.dispatches = m.dispatches ++ new ∧
    ∀ d ∈ new, ∀ v ∈ d.values, f.heap.Apart m.Holds v
  there : ∀ p, m.Holds p → p < f.heap.size
  kept : ∀ p, m.Holds p → f.heap.items? p = m.heap.items? p

/-- Nothing that a host leaves at this place leads to an array that a record
of the machine holds, as long as nothing at hand does. -/
def AnsweredApart (m : Machine) (f : Frame) (i : Instruction) : Prop :=
  f.Spares m → ∀ d host v, f.AtCall i d → m.hosts.find? d.callable = some host →
    (host f.heap d.arguments).value = some v →
    (f.heap.extend (host f.heap d.arguments)).Apart m.Holds v

/-- What is at hand with another stack was at hand before, or is on that
stack. -/
theorem mem_values_of_restacked {v : Value} {stack : List Value} {h : Heap} {ds : List Dispatch}
    (hv : v ∈ { f with stack := stack, heap := h, dispatches := ds }.values) :
    v ∈ f.values ∨ v ∈ stack := by
  rw [values, List.mem_append] at hv
  exact hv.imp_left (List.mem_append_left _)

/-- A frame spares the records after a step if what was apart stays apart,
what is new is apart, and the arrays of the records stay as they are. -/
theorem Spares.grown (h : f.Spares m)
    (hgrown : ∀ v, f.heap.Apart m.Holds v → g.heap.Apart m.Holds v)
    (hsize : f.heap.size ≤ g.heap.size)
    (hkept : ∀ p, m.Holds p → g.heap.items? p = f.heap.items? p)
    (hvalues : ∀ v ∈ g.values, g.heap.Apart m.Holds v)
    (hrecorded : ∃ more, g.dispatches = f.dispatches ++ more ∧
      ∀ d ∈ more, ∀ v ∈ d.values, g.heap.Apart m.Holds v) :
    g.Spares m := by
  obtain ⟨new, hnew, hnewApart⟩ := h.recorded
  obtain ⟨more, hmore, hmoreApart⟩ := hrecorded
  refine ⟨hvalues, ⟨new ++ more, ?_, ?_⟩, ?_, ?_⟩
  · rw [hmore, hnew, List.append_assoc]
  · intro d hd v hv
    rcases List.mem_append.mp hd with hd | hd
    · exact hgrown v (hnewApart d hd v hv)
    · exact hmoreApart d hd v hv
  · intro p hp
    exact Nat.lt_of_lt_of_le (h.there p hp) hsize
  · intro p hp
    rw [hkept p hp, h.kept p hp]

/-- A late call that completes in such a frame has an array there. -/
theorem Spares.atCall (h : f.Spares m) {d : Dispatch} {position : Nat} {rest : List Value}
    (instruction_eq : i = ⟨.invokeLate, .callable d.callable⟩)
    (stack_eq : f.stack = .array position :: d.receiver :: rest)
    (arguments_eq : d.arguments = ((f.heap.items? position).getD #[]).toList) :
    f.AtCall i d := by
  have hapart := h.values_apart (.array position) (mem_values_of_stack (by simp [stack_eq]))
  obtain ⟨items, hitems⟩ := Heap.exists_items hapart.exists_lt.1
  refine ⟨position, items, rest, instruction_eq, stack_eq, hitems, ?_⟩
  rw [arguments_eq, hitems, Option.getD_some]

/-- Everything in the record of a call was at hand, or in an array at
hand. -/
theorem Spares.apart_of_atCall (h : f.Spares m) {d : Dispatch} (hcall : f.AtCall i d) :
    ∀ v ∈ d.values, f.heap.Apart m.Holds v := by
  obtain ⟨position, items, rest, -, hstack, hitems, harguments⟩ := hcall
  intro v hv
  rcases List.mem_cons.mp hv with rfl | hv
  · exact h.values_apart _ (mem_values_of_stack (by simp [hstack]))
  · have hapart := h.values_apart (.array position) (mem_values_of_stack (by simp [hstack]))
    exact hapart.item hitems (harguments ▸ hv)

theorem Spares.made (h : f.Spares m) {length : Int32} {rest : List Value}
    (stack_eq : f.stack = .int32 length :: rest) :
    { f with
      stack := .array f.heap.size :: rest
      heap := (f.heap.make (.replicate length.toInt.toNat .null)).2 }.Spares m := by
  have hnew : ¬m.Holds f.heap.size := fun hp => Nat.lt_irrefl _ (h.there _ hp)
  have hsame : ∀ p, p < f.heap.size →
      (f.heap.make (.replicate length.toInt.toNat .null)).2.items? p = f.heap.items? p := by
    intro p hp
    rw [Heap.items?_make, if_neg (Nat.ne_of_lt hp)]
  have hgrown (v : Value) (hv : f.heap.Apart m.Holds v) :
      (f.heap.make (.replicate length.toInt.toNat .null)).2.Apart m.Holds v :=
    hv.congr (by simp) fun p hp _ => hsame p hp
  refine h.grown hgrown (by simp) (fun p hp => hsame p (h.there p hp)) ?_ ⟨[], by simp⟩
  intro v hv
  rcases mem_values_of_restacked hv with hv | hv
  · exact hgrown v (h.values_apart v hv)
  · rcases List.mem_cons.mp hv with rfl | hv
    · refine Heap.apart_make (fun u hu => ?_) hnew
      obtain ⟨-, rfl⟩ : _ ∧ u = .null := by simpa using hu
      exact Heap.apart_of_none rfl
    · exact hgrown v (h.values_apart v (mem_values_of_stack (by simp [stack_eq, hv])))

/-- A store goes into an array at hand, so into none of the records. -/
theorem Spares.stored (h : f.Spares m) {v : Value} {index : Int32} {position : Nat}
    {rest : List Value} (stack_eq : f.stack = v :: .int32 index :: .array position :: rest) :
    { f with
      stack := rest
      heap := f.heap.write position index.toInt.toNat v }.Spares m := by
  have hposition := h.values_apart (.array position) (mem_values_of_stack (by simp [stack_eq]))
  have hv := h.values_apart v (mem_values_of_stack (by simp [stack_eq]))
  have hgrown (u : Value) (hu : f.heap.Apart m.Holds u) := hu.write hv position index.toInt.toNat
  refine h.grown hgrown (by simp) ?_ ?_ ⟨[], by simp⟩
  · intro p hp
    rw [Heap.items?_write, if_neg]
    rintro rfl
    exact hposition.exists_lt.2 hp
  · intro u hu
    rcases mem_values_of_restacked hu with hu | hu
    · exact hgrown u (h.values_apart u hu)
    · exact hgrown u (h.values_apart u (mem_values_of_stack (by simp [stack_eq, hu])))

/-- A late call brings back what the host leaves, and records what was at
hand. -/
theorem Spares.called (h : f.Spares m) {d : Dispatch} {rest : List Value} {host : Host}
    {position : Nat} (stack_eq : f.stack = .array position :: d.receiver :: rest)
    (hcall : f.AtCall i d)
    (hanswer : ∀ v, (host f.heap d.arguments).value = some v →
      (f.heap.extend (host f.heap d.arguments)).Apart m.Holds v) :
    { f with
      stack := (host f.heap d.arguments).value.toList ++ rest
      heap := f.heap.extend (host f.heap d.arguments)
      dispatches := f.dispatches ++ [d] }.Spares m := by
  have hsize : f.heap.size ≤ (f.heap.extend (host f.heap d.arguments)).size := by
    simp [Heap.size_extend]
  have hsame (p : Nat) (hp : p < f.heap.size) :=
    Heap.items?_extend_of_lt hp (host f.heap d.arguments)
  have hgrown (u : Value) (hu : f.heap.Apart m.Holds u) :=
    hu.congr hsize fun p hp _ => hsame p hp
  refine h.grown hgrown hsize (fun p hp => hsame p (h.there p hp)) ?_ ⟨[d], rfl, ?_⟩
  · intro u hu
    rcases mem_values_of_restacked hu with hu | hu
    · exact hgrown u (h.values_apart u hu)
    · rcases List.mem_append.mp hu with hu | hu
      · exact hanswer u (Option.mem_toList.mp hu)
      · exact hgrown u (h.values_apart u (mem_values_of_stack (by simp [stack_eq, hu])))
  · intro e he u hu
    obtain rfl := List.mem_singleton.mp he
    exact hgrown u (h.apart_of_atCall hcall u hu)

/-- An instruction that completes keeps the records spared, if hosts do. -/
theorem Spares.step (h : f.Spares m) (hanswered : f.AnsweredApart m i)
    (hstep : f.step m.hosts i = .going g) : g.Spares m := by
  cases advances_of_step hstep with
  | worked quiet heap_eq dispatches_eq values_from =>
    refine h.grown (by simp [heap_eq]) (by simp [heap_eq]) (by simp [heap_eq]) ?_
      ⟨[], by simp [dispatches_eq]⟩
    intro v hv
    rw [heap_eq]
    rcases values_from v hv with hnone | ⟨u, hu, heq⟩
    · exact Heap.apart_of_none hnone
    · exact (h.values_apart u hu).of_position_eq heq
  | made opcode_eq stack_eq => exact h.made stack_eq
  | stored opcode_eq stack_eq => exact h.stored stack_eq
  | called instruction_eq stack_eq arguments_eq host_eq =>
    have hcall := h.atCall instruction_eq stack_eq arguments_eq
    exact h.called stack_eq hcall fun v => hanswered h _ _ v hcall host_eq

/-- A run that starts without the arrays of earlier records never gets hold
of one. -/
theorem spares_after? (h : f.Spares m)
    (hanswered : ∀ k g i, f.after? m.hosts is k = some g → is[k]? = some i → g.AnsweredApart m i)
    (hk : k ≤ is.length) (hg : f.after? m.hosts is k = some g) : g.Spares m :=
  after?_induction (P := fun _ g => g.Spares m) h
    (fun k before i _ hbefore hreached hi hstep =>
      hbefore.step (hanswered k before i hreached hi) hstep) hk hg

/-- All records of such a frame hold only arrays that are there. -/
theorem Spares.lt_of_holds (h : f.Spares m) {d : Dispatch} (hd : d ∈ f.dispatches) {v : Value}
    (hv : v ∈ d.values) {p : Nat} (hp : f.heap.Holds v p) : p < f.heap.size := by
  obtain ⟨new, hnew, hapart⟩ := h.recorded
  rw [hnew] at hd
  rcases List.mem_append.mp hd with hd | hd
  · have hearlier : m.heap.Holds v p :=
      hp.of_same fun q hq => h.kept q ⟨d, hd, v, hv, hq⟩
    exact h.there p ⟨d, hd, v, hv, hearlier⟩
  · exact (hapart d hd v hv p hp).1

/-! ## One record for each late call -/

theorem calls_succ (hi : is[k]? = some i) :
    calls is (k + 1) = calls is k ++ if i.opcode = .invokeLate then [k] else [] := by
  rw [calls, List.range_succ, List.filter_append, calls]
  by_cases hop : i.opcode = .invokeLate <;> simp [hi, hop]

/-- The records of a run, behind the earlier ones, are those of its late
calls. -/
theorem records_after? (hstart : f.dispatches = m.dispatches)
    (hspares : ∀ k g, k ≤ is.length → f.after? m.hosts is k = some g → g.Spares m)
    (hk : k ≤ is.length) (hg : f.after? m.hosts is k = some g) :
    ∃ new, g.dispatches = m.dispatches ++ new ∧
      List.Forall₂ (f.Records m.hosts is) (calls is k) new := by
  refine after?_induction (P := fun k g => ∃ new, g.dispatches = m.dispatches ++ new ∧
    List.Forall₂ (f.Records m.hosts is) (calls is k) new) ?_ ?_ hk hg
  · exact ⟨[], by simp [hstart], .nil⟩
  · rintro k before i g ⟨new, hnew, hrecords⟩ hbefore hi hstep
    have hlt : k < is.length := (List.getElem?_eq_some_iff.mp hi).1
    rw [calls_succ hi]
    -- only a late call adds a record
    have hquiet (hop : i.opcode ≠ .invokeLate) (heq : g.dispatches = before.dispatches) :
        ∃ new, g.dispatches = m.dispatches ++ new ∧ List.Forall₂ (f.Records m.hosts is)
          (calls is k ++ if i.opcode = .invokeLate then [k] else []) new :=
      ⟨new, heq.trans hnew, by simpa [hop] using hrecords⟩
    cases advances_of_step hstep with
    | worked quiet heap_eq dispatches_eq values_from =>
      refine hquiet (fun hop => ?_) dispatches_eq
      rw [hop] at quiet
      cases quiet
    | made opcode_eq stack_eq => exact hquiet (by simp [opcode_eq]) rfl
    | stored opcode_eq stack_eq => exact hquiet (by simp [opcode_eq]) rfl
    | @called d position rest host instruction_eq stack_eq arguments_eq host_eq =>
      have hspared := hspares k before (Nat.le_of_lt hlt) hbefore
      have hcall := hspared.atCall instruction_eq stack_eq arguments_eq
      refine ⟨new ++ [d], by simp [hnew], ?_⟩
      rw [instruction_eq, if_pos rfl]
      exact List.rel_append hrecords (.cons ⟨before, i, hbefore, hi, hcall⟩ .nil)

end Frame

end TypeSynthesis
