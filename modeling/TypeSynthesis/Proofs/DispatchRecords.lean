/-
TypeSynthesis.Proofs.DispatchRecords — the record that a machine keeps of
late calls.

A machine keeps one record for each late call, through all its runs. What a
run adds is exactly what it called, and does not depend on what was recorded
before: the same run on two machines with different records never tells
them apart.

* `Host.Pure` — hosts that answer by their arguments alone.
* `Frame.Twin`, `Twin.step`, `Twin.run` — runs beside other records.
* `Machine.dispatches_exact` — what a run adds to the records, for every
  body on every machine.
* `Machine.holds_lt_execute` — the machine is ready for the next run.
-/
import TypeSynthesis.Proofs.SparedRecords

namespace TypeSynthesis

/-- The answers of the host depend on nothing but the arguments and the
arrays that they hold, and on the number of arrays, which is what it needs
to know to name a new one. -/
def Host.Pure (host : Host) : Prop :=
  ∀ h k arguments, k.size = h.size →
    (∀ v ∈ arguments, ∀ p, h.Holds v p → k.items? p = h.items? p) →
    host k arguments = host h arguments

namespace Frame

variable {hosts : Table CallableName Host} {m other : Machine} {f g : Frame} {i : Instruction}
  {is : List Instruction} {k : Nat}

/-! ## Runs beside other records -/

/-- The frames are those of two machines with different records. They have
the same at hand and have recorded the same since, and their heaps differ at
most in the arrays that the records of the first machine hold. -/
structure Twin (m other : Machine) (f g : Frame) : Prop where
  arguments_eq : g.arguments = f.arguments
  locals_eq : g.locals = f.locals
  stack_eq : g.stack = f.stack
  size_eq : g.heap.size = f.heap.size
  items_eq : ∀ p, ¬m.Holds p → g.heap.items? p = f.heap.items? p
  recorded : ∃ new, f.dispatches = m.dispatches ++ new ∧ g.dispatches = other.dispatches ++ new

/-- Two steps that come to the same. -/
def TwinProgress (m other : Machine) : Progress → Progress → Prop
  | .going f, .going g => f.Twin m other g
  | .ended result f, .ended result' g => result' = result ∧ f.Twin m other g
  | _, _ => False

/-- A value that spares the records shows the same in both heaps. -/
theorem Twin.shown_eq (h : f.Twin m other g) {v : Value} (hv : f.heap.Apart m.Holds v) :
    g.heap.shown v = f.heap.shown v :=
  Heap.shown_congr h.size_eq fun p hp => h.items_eq p (hv p hp).2

theorem Twin.makeArray (h : f.Twin m other g) :
    TwinProgress m other f.makeArray g.makeArray := by
  unfold Frame.makeArray
  rw [h.stack_eq]
  split
  · exact ⟨rfl, h⟩
  · split
    · exact ⟨rfl, h⟩
    · rename_i length rest _ _
      have hsize (items : Array Value) :
          (g.heap.make items).2.size = (f.heap.make items).2.size := by
        simp [h.size_eq]
      have hitems (items : Array Value) (p : Nat) (hp : ¬m.Holds p) :
          (g.heap.make items).2.items? p = (f.heap.make items).2.items? p := by
        rw [Heap.items?_make, Heap.items?_make, h.size_eq, h.items_eq p hp]
      exact ⟨h.arguments_eq, h.locals_eq, by simp [h.size_eq], hsize _, hitems _, h.recorded⟩
  · exact ⟨rfl, h⟩

/-- The array of a store is at hand, so it is the same in both heaps. -/
theorem Twin.storeElement (h : f.Twin m other g) (hspares : f.Spares m) :
    TwinProgress m other f.storeElement g.storeElement := by
  unfold Frame.storeElement
  rw [h.stack_eq]
  split
  · rename_i v index position rest hstack
    have hposition := hspares.values_apart (.array position)
      (mem_values_of_stack (by simp [hstack]))
    rw [h.items_eq position hposition.exists_lt.2]
    split
    · exact ⟨rfl, h⟩
    · split
      · refine ⟨h.arguments_eq, h.locals_eq, rfl, by simp [h.size_eq], ?_, h.recorded⟩
        intro p hp
        rw [Heap.items?_write, Heap.items?_write, h.items_eq p hp]
      · exact ⟨rfl, h⟩
  · exact ⟨rfl, h⟩
  · exact ⟨rfl, h⟩

/-- The answers of a host to a late call are the same, and so are the arrays
that it makes. -/
theorem Twin.callLate (h : f.Twin m other g) (hspares : f.Spares m)
    (hpure : ∀ c host, m.hosts.find? c = some host → host.Pure) (c : CallableName) :
    TwinProgress m other (f.callLate m.hosts c) (g.callLate m.hosts c) := by
  unfold Frame.callLate
  rw [h.stack_eq]
  split
  · rename_i position receiver rest hstack
    have hposition := hspares.values_apart (.array position)
      (mem_values_of_stack (by simp [hstack]))
    obtain ⟨items, hitems⟩ := Heap.exists_items hposition.exists_lt.1
    rw [h.items_eq position hposition.exists_lt.2, hitems]
    split
    · exact ⟨rfl, h⟩
    · rename_i host hhost
      have hanswer : host g.heap items.toList = host f.heap items.toList :=
        hpure c host hhost _ _ _ h.size_eq fun v hv p hp =>
          h.items_eq p (hposition.item hitems hv p hp).2
      simp only [Option.getD_some, hanswer]
      obtain ⟨new, hf, hg⟩ := h.recorded
      refine ⟨h.arguments_eq, h.locals_eq, rfl, by simp [Heap.size_extend, h.size_eq], ?_,
        new ++ [⟨c, receiver, items.toList⟩], by simp [hf], by simp [hg]⟩
      intro p hp
      rcases Nat.lt_or_ge p f.heap.size with hlt | hge
      · rw [Heap.items?_extend_of_lt hlt, Heap.items?_extend_of_lt (h.size_eq ▸ hlt),
          h.items_eq p hp]
      · rw [Heap.items?_extend_of_ge hge, Heap.items?_extend_of_ge (h.size_eq ▸ hge),
          h.size_eq]
  · exact ⟨rfl, h⟩
  · exact ⟨rfl, h⟩

/-- Beside other records every instruction does the same. -/
theorem Twin.step (h : f.Twin m other g) (hspares : f.Spares m)
    (hpure : ∀ c host, m.hosts.find? c = some host → host.Pure) (i : Instruction) :
    TwinProgress m other (f.step m.hosts i) (g.step m.hosts i) := by
  by_cases quiet : i.opcode.isLocal = true
  · have hg : g = f.elsewhere g.heap g.dispatches := by
      obtain ⟨arguments, locals, stack, heap, dispatches⟩ := g
      simp [elsewhere, ← h.arguments_eq, ← h.locals_eq, ← h.stack_eq]
    rw [hg, step_elsewhere quiet]
    cases hstep : f.step m.hosts i with
    | going next =>
      have hsame : next.heap = f.heap ∧ next.dispatches = f.dispatches := by
        cases advances_of_step hstep with
        | worked _ heap_eq dispatches_eq => exact ⟨heap_eq, dispatches_eq⟩
        | made opcode_eq => simp [opcode_eq, OpCode.isLocal] at quiet
        | stored opcode_eq => simp [opcode_eq, OpCode.isLocal] at quiet
        | called instruction_eq => simp [instruction_eq, OpCode.isLocal] at quiet
      exact ⟨rfl, rfl, rfl, hsame.1 ▸ h.size_eq, hsame.1 ▸ h.items_eq, hsame.2 ▸ h.recorded⟩
    | ended result last =>
      cases ends_of_step hstep with
      | returned => exact ⟨rfl, rfl, rfl, rfl, h.size_eq, h.items_eq, h.recorded⟩
      | trapped => exact ⟨rfl, rfl, rfl, rfl, h.size_eq, h.items_eq, h.recorded⟩
  · obtain ⟨op, operand⟩ := i
    cases op with
    | newarr =>
      cases operand with
      | type t => exact h.makeArray
      | _ => exact ⟨rfl, h⟩
    | stelemRef => exact h.storeElement hspares
    | invokeLate =>
      cases operand with
      | callable c => exact h.callLate hspares hpure c
      | _ => exact ⟨rfl, h⟩
    | _ => exact absurd rfl quiet

/-- Beside other records the whole run does the same. -/
theorem Twin.run (h : f.Twin m other g)
    (hspares : ∀ k g, k ≤ is.length → f.after? m.hosts is k = some g → g.Spares m)
    (hpure : ∀ c host, m.hosts.find? c = some host → host.Pure) :
    (g.run m.hosts is).1 = (f.run m.hosts is).1 ∧
      (f.run m.hosts is).2.Twin m other (g.run m.hosts is).2 := by
  induction is generalizing f g with
  | nil => exact ⟨rfl, h⟩
  | cons i rest ih =>
    have hboth := h.step (hspares 0 f (Nat.zero_le _) rfl) hpure i
    cases hf : f.step m.hosts i with
    | going f' =>
      cases hg : g.step m.hosts i with
      | going g' =>
        rw [hf, hg] at hboth
        rw [run_cons hf, run_cons hg]
        exact ih hboth fun k last hk hlast =>
          hspares (k + 1) last (Nat.succ_le_succ hk) ((after?_cons hf).trans hlast)
      | ended result g' => rw [hf, hg] at hboth; exact hboth.elim
    | ended result f' =>
      cases hg : g.step m.hosts i with
      | going g' => rw [hf, hg] at hboth; exact hboth.elim
      | ended result' g' =>
        rw [hf, hg] at hboth
        rw [run_of_ended hf, run_of_ended hg]
        exact hboth

/-! ## Failing late calls -/

/-- A late call at which a run stops found too little on the stack, no array
there, or no host. -/
theorem StopsAt.of_late {result : Except Trap (Option Value)} {c : CallableName}
    (h : f.StopsAt hosts is k result) (hi : is[k]? = some ⟨.invokeLate, .callable c⟩) :
    ∃ t, result = .error t ∧ (t = .underflow ∨ (∃ v, t = .notPacked v) ∨ t = .noHost c) := by
  cases h with
  | fellOff => simp at hi
  | returned through here opcode_eq =>
    rw [hi, Option.some.injEq] at here
    subst here
    cases opcode_eq
  | @trapped _ g last _ trap through here step_eq =>
    rw [hi, Option.some.injEq] at here
    subst here
    replace step_eq : g.callLate hosts c = .ended (.error trap) last := step_eq
    refine ⟨trap, rfl, ?_⟩
    unfold Frame.callLate at step_eq
    split at step_eq
    · split at step_eq
      · cases step_eq
        exact .inr (.inr rfl)
      · cases step_eq
    · cases step_eq
      exact .inr (.inl ⟨_, rfl⟩)
    · cases step_eq
      exact .inl rfl

end Frame

/-- A trap reads the same if the values that it is about show the same. -/
theorem Trap.message_congr {h k : Heap} {t : Trap}
    (hsame : ∀ v ∈ Frame.resultValues (.error t), k.shown v = h.shown v) :
    t.message k = t.message h := by
  have hinspected (v : Value) (hv : v ∈ Frame.resultValues (.error t)) :
      k.inspected v = h.inspected v := by
    rw [Heap.inspected, Heap.inspected, hsame v hv]
  unfold message reason
  cases t with
  | notAPointer v | notALength v | notPacked v =>
    dsimp only
    rw [hinspected v (List.mem_singleton_self v)]
  | notAnElement array index =>
    dsimp only
    rw [hinspected array List.mem_cons_self,
      hinspected index (List.mem_cons_of_mem _ (List.mem_singleton_self index))]
  | _ => rfl

namespace Machine

variable {m other : Machine}

/-! ## The first state -/

theorem mem_values_start {code : Code} {arguments : List Value} {v : Value}
    (hv : v ∈ (m.start code arguments).values) : v = .null ∨ v ∈ arguments := by
  simp only [start, Frame.values, List.append_nil, List.mem_append, Array.toList_replicate,
    List.mem_cons, List.mem_replicate] at hv
  rcases hv with (hv | hv) | ⟨-, hv⟩
  · exact .inl hv
  · exact .inr hv
  · exact .inl hv

/-- A run whose arguments have no array of an earlier record starts without
any. -/
theorem spares_start (hthere : ∀ p, m.Holds p → p < m.heap.size) {arguments : List Value}
    (harguments : ∀ v ∈ arguments, m.heap.Apart m.Holds v) (code : Code) :
    (m.start code arguments).Spares m where
  values_apart v hv := by
    rcases mem_values_start hv with rfl | hv
    · exact Heap.apart_of_none rfl
    · exact harguments v hv
  recorded := ⟨[], (List.append_nil _).symm, by simp⟩
  there := hthere
  kept _ _ := rfl

/-- On a machine with other records a run starts beside this one. -/
theorem twin_start (hsize : other.heap.size = m.heap.size)
    (hitems : ∀ p, ¬m.Holds p → other.heap.items? p = m.heap.items? p) (code : Code)
    (arguments : List Value) :
    (m.start code arguments).Twin m other (other.start code arguments) :=
  ⟨rfl, rfl, rfl, hsize, hitems, [], (List.append_nil _).symm, (List.append_nil _).symm⟩

/-! ## Whole runs -/

/-- The records that were there show what they showed, to any depth. -/
theorem kept_shown {last : Frame} (hlast : last.Spares m) {d : Dispatch} (hd : d ∈ m.dispatches)
    {v : Value} (hv : v ∈ d.values) (bound : Nat) :
    v.shownBy (last.heap.itemsWithin bound) = v.shownBy (m.heap.itemsWithin bound) :=
  Heap.shownBy_itemsWithin_congr (fun p hp => hlast.kept p ⟨d, hd, v, hv, hp⟩) bound

/-- After such a run the records hold only arrays that are there, so the next
run may start from this machine in turn. -/
theorem holds_lt_execute {code : Code} {arguments : List Value}
    (hthere : ∀ p, m.Holds p → p < m.heap.size)
    (harguments : ∀ v ∈ arguments, m.heap.Apart m.Holds v)
    (hanswered : ∀ n g i, (m.start code arguments).after? m.hosts code.instructions n = some g →
      code.instructions[n]? = some i → g.AnsweredApart m i) :
    ∀ p, (m.execute code arguments).2.Holds p → p < (m.execute code arguments).2.heap.size := by
  have hstart := spares_start hthere harguments code
  obtain ⟨k, last, hk, hlast, -, hheap, hdispatches, -⟩ :=
    Frame.exists_stop m.hosts (m.start code arguments) code.instructions
  have hspared := Frame.spares_after? hstart hanswered hk hlast
  rintro p ⟨d, hd, v, hv, hp⟩
  have hleft : (m.execute code arguments).2.heap = last.heap := hheap
  rw [hleft] at hp ⊢
  exact hspared.lt_of_holds (hdispatches ▸ hd) hv hp

/-- **The records of a run.** Of any body and on any machine, as long as no
array of an earlier record comes into it, by an argument or from a host. The
run adds one record for each late call among the instructions that complete,
in order, with the receiver and the arguments as they were then; a late call
at which it stops adds none. The earlier records show what they showed. And
on a machine with other earlier records the run gives and adds the same; the
two have as many arrays, since the number of them names the next one. -/
theorem dispatches_exact (m : Machine) (code : Code) (arguments : List Value)
    (hthere : ∀ p, m.Holds p → p < m.heap.size)
    (harguments : ∀ v ∈ arguments, m.heap.Apart m.Holds v)
    (hpure : ∀ c host, m.hosts.find? c = some host → host.Pure)
    (hanswered : ∀ n g i, (m.start code arguments).after? m.hosts code.instructions n = some g →
      code.instructions[n]? = some i → g.AnsweredApart m i) :
    let ran := m.execute code arguments
    ∃ k recorded,
      (m.start code arguments).StopsAt m.hosts code.instructions k ran.1 ∧
      ran.2.dispatches = m.dispatches ++ recorded ∧
      List.Forall₂ ((m.start code arguments).Records m.hosts code.instructions)
        (Frame.calls code.instructions k) recorded ∧
      (∀ c, code.instructions[k]? = some ⟨.invokeLate, .callable c⟩ →
        ∃ t, ran.1 = .error t ∧ (t = .underflow ∨ (∃ v, t = .notPacked v) ∨ t = .noHost c)) ∧
      (∀ d ∈ m.dispatches, ∀ v ∈ d.values, ∀ bound,
        v.shownBy (ran.2.heap.itemsWithin bound) = v.shownBy (m.heap.itemsWithin bound)) ∧
      ∀ other : Machine, other.hosts = m.hosts → other.heap.size = m.heap.size →
        (∀ p, ¬m.Holds p → other.heap.items? p = m.heap.items? p) →
        let beside := other.execute code arguments
        beside.1 = ran.1 ∧
        beside.2.dispatches = other.dispatches ++ recorded ∧
        (∀ d ∈ recorded, ∀ v ∈ d.values, beside.2.heap.shown v = ran.2.heap.shown v) ∧
        (∀ v, ran.1 = .ok (some v) → beside.2.heap.shown v = ran.2.heap.shown v) ∧
        ∀ t, ran.1 = .error t → t.message beside.2.heap = t.message ran.2.heap := by
  intro ran
  have hstart := spares_start hthere harguments code
  have hspares (n : Nat) (g : Frame) := Frame.spares_after? (k := n) (g := g) hstart hanswered
  obtain ⟨k, last, hk, hlast, hstop, hheap, hdispatches, hvalues⟩ :=
    Frame.exists_stop m.hosts (m.start code arguments) code.instructions
  obtain ⟨recorded, hrecorded, hrecords⟩ := Frame.records_after? rfl hspares hk hlast
  have hspared := hspares k last hk hlast
  have hleft : ran.2.heap = last.heap := hheap
  refine ⟨k, recorded, hstop, hdispatches.trans hrecorded, hrecords, fun c => hstop.of_late,
    ?_, ?_⟩
  · intro d hd v hv bound
    rw [hleft, kept_shown hspared hd hv]
  · rintro ⟨hosts, heap, dispatches⟩ hhosts hsize hitems beside
    obtain rfl : hosts = m.hosts := hhosts
    obtain ⟨hresult, htwin⟩ := (twin_start hsize hitems code arguments).run hspares hpure
    obtain ⟨new, hnew, hothers⟩ := htwin.recorded
    obtain rfl : recorded = new :=
      List.append_cancel_left (hrecorded.symm.trans (hdispatches.symm.trans hnew))
    -- what the frame at the end has at hand or has recorded shows the same
    have hshown (v : Value) (hv : last.heap.Apart m.Holds v) := htwin.shown_eq (hheap ▸ hv)
    have hended (v : Value) (hv : v ∈ Frame.resultValues ran.1) :=
      hshown v (hspared.values_apart v (Frame.mem_values_of_stack (hvalues v hv)))
    obtain ⟨new, hnew, hapart⟩ := hspared.recorded
    obtain rfl : recorded = new := List.append_cancel_left (hrecorded.symm.trans hnew)
    refine ⟨hresult, hothers, fun d hd v hv => hshown v (hapart d hd v hv), ?_, ?_⟩
    · intro v hv
      exact hended v (by simp [hv, Frame.resultValues])
    · intro t ht
      exact Trap.message_congr fun v hv => hended v (ht ▸ hv)

/-- A machine on which a call was logged before. The record of it has an
array, and beside that there is another one. -/
def logging : Machine :=
  ⟨Table.empty.put ⟨"Log"⟩ .packing, ⟨#[#[.int32 1], #[.text "x"]]⟩,
    [⟨⟨"Log"⟩, .array 0, [.int32 1]⟩]⟩

/-- Logs what is in the argument, stores another value there, and calls what
has no host. -/
def loggingCode : Code :=
  ⟨[⟨.ldnull, .none⟩, ⟨.ldarg, .argument 1⟩, ⟨.invokeLate, .callable ⟨"Log"⟩⟩,
    ⟨.ldarg, .argument 1⟩, ⟨.ldcI4, .int32 0⟩, ⟨.ldnull, .none⟩, ⟨.stelemRef, .none⟩,
    ⟨.ldarg, .argument 1⟩, ⟨.invokeLate, .callable ⟨"Missing"⟩⟩, ⟨.ret, .none⟩], [], 3⟩

theorem eq_packing_of_logging {c : CallableName} {host : Host}
    (h : logging.hosts.find? c = some host) : host = .packing := by
  rw [logging, Table.find?_put, Table.find?_empty] at h
  split at h
  · exact (Option.some.inj h).symm
  · cases h

theorem holds_logging_iff {p : Nat} : logging.Holds p ↔ p = 0 := by
  refine ⟨?_, ?_⟩
  · rintro ⟨d, hd, v, hv, hp⟩
    obtain rfl := List.mem_singleton.mp hd
    refine hp.of_closed (S := (· = 0)) ?_ ?_
    · rintro _ rfl items hitems u hu r hr
      obtain rfl : #[.int32 1] = items := Option.some.inj hitems
      obtain rfl := List.mem_singleton.mp hu
      cases hr
    · intro q hq
      rcases List.mem_cons.mp hv with rfl | hv
      · exact (Option.some.inj hq).symm
      · obtain rfl := List.mem_singleton.mp hv
        cases hq
  · rintro rfl
    exact ⟨_, List.mem_singleton_self _, _, List.mem_cons_self, Heap.holds_self rfl⟩

theorem apart_logging : logging.heap.Apart logging.Holds (.array 1) := by
  refine Heap.apart_of_closed (S := (· = 1)) ?_ ?_ ?_
  · rintro _ rfl
    exact ⟨by decide, fun h => absurd (holds_logging_iff.mp h) (by decide)⟩
  · rintro _ rfl items hitems u hu r hr
    obtain rfl : #[.text "x"] = items := Option.some.inj hitems
    obtain rfl := List.mem_singleton.mp hu
    cases hr
  · intro p hp
    exact (Option.some.inj hp).symm

/-- The array that the host makes is new, and what is in it was given to the
host. -/
theorem answeredApart_logging (f : Frame) (i : Instruction) : f.AnsweredApart logging i := by
  intro hspares d host v hcall hhost hv
  obtain rfl := eq_packing_of_logging hhost
  obtain rfl := Option.some.inj hv
  refine Heap.apart_make (fun u hu => ?_) fun hp => Nat.lt_irrefl _ (hspares.there _ hp)
  exact hspares.apart_of_atCall hcall u (List.mem_cons_of_mem _ (by simpa using hu))

theorem dispatches_exact_failing :
    let forgetful : Machine := ⟨logging.hosts, ⟨#[#[], #[.text "x"]]⟩, []⟩
    (logging.execute loggingCode [.array 1]).2.dispatches =
        logging.dispatches ++ [⟨⟨"Log"⟩, .null, [.text "x"]⟩] ∧
      (forgetful.execute loggingCode [.array 1]).2.dispatches =
        [⟨⟨"Log"⟩, .null, [.text "x"]⟩] ∧
      (forgetful.execute loggingCode [.array 1]).1 = .error (.noHost ⟨"Missing"⟩) := by
  intro forgetful
  have hlogged : (logging.execute loggingCode [.array 1]).2.dispatches =
      logging.dispatches ++ [⟨⟨"Log"⟩, .null, [.text "x"]⟩] := by decide
  obtain ⟨k, recorded, -, hdispatches, -, -, -, hother⟩ :=
    dispatches_exact logging loggingCode [.array 1]
      (fun p hp => by rw [holds_logging_iff.mp hp]; decide)
      (fun v hv => by rw [List.mem_singleton.mp hv]; exact apart_logging)
      (fun c host h k l arguments hsize _ => by simp [eq_packing_of_logging h, Host.packing, hsize])
      (fun n g i _ _ => answeredApart_logging g i)
  obtain rfl : recorded = _ := List.append_cancel_left (hdispatches.symm.trans hlogged)
  obtain ⟨hresult, hrecorded, -⟩ := hother forgetful rfl rfl fun p hp => by
    cases p with
    | zero => exact absurd (holds_logging_iff.mpr rfl) hp
    | succ p => cases p <;> rfl
  exact ⟨hlogged, hrecorded, hresult.trans (by decide)⟩

end Machine

end TypeSynthesis
