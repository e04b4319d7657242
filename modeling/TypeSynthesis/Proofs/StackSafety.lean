/-
TypeSynthesis.Proofs.StackSafety — what the encoder checks, the machine
needs no more.

Two tables say what an instruction does to the stack: the opcodes' pops and
pushes, by which the encoder tracks a depth, and the steps of the machine.
A run on the machine follows the writing on the encoder, entry by entry:
the height of the stack is the depth that was tracked.

* `Follows` — how a step may answer to an entry: go on at the new depth,
  return, or trap for a reason that no check of the encoder could foresee.
* `step_follows` — every step does, once the entry was admitted.
* `run_follows` — so does a whole run; `execute_safe` says it of finished
  bodies.

A late call pushes what its host leaves, so the hosts must leave a value
exactly where the body was written so (`Entry.AgreesWith`).
-/
import TypeSynthesis.Proofs.EncoderInvariant
import TypeSynthesis.Proofs.MachineRuns

namespace TypeSynthesis

/-! ## Bodies whose calls are late calls -/

/-- An instruction with the stack effect of its opcode, or a late call that
takes what late calls take. -/
def Emission.Standard (m : Emission) : Prop :=
  (∃ mnemonic operand, m = .plain mnemonic operand) ∨ ∃ c leavesValue, m = .invokeLate c leavesValue

/-- A request for such an instruction, or for a local. -/
def Request.Standard : Request → Prop
  | .write m => m.Standard
  | .declareLocal .. => True

/-- The stack effect is that of the opcode, except that a late call may push
a value. -/
structure Entry.Standard (w : Entry) : Prop where
  pops_eq : w.pops = w.instruction.opcode.pops
  pushes_eq : w.instruction.opcode ≠ .invokeLate → w.pushes = w.instruction.opcode.pushes
  pushes_le : w.pushes ≤ 1

/-- The host of a callable, if there is one, leaves a value exactly when the
call was written so. -/
def Entry.AgreesWith (hosts : Table CallableName Host) (w : Entry) : Prop :=
  ∀ c, w.instruction = ⟨.invokeLate, .callable c⟩ → ∀ host, hosts.find? c = some host →
    ∀ heap arguments, (host heap arguments).value.isSome = true ↔ w.pushes = 1

/-- The traps that the checks of an encoder could foresee. -/
def Trap.isStatic : Trap → Bool
  | underflow | unexpected _ | fellOff | localOutOfRange _ => true
  | _ => false

theorem OpCode.pushes_le_one (op : OpCode) : op.pushes ≤ 1 := by cases op <;> decide

theorem Emission.Standard.entryAt? {m : Emission} (h : m.Standard) {before : Nat} {w : Entry}
    (hw : m.entryAt? before = some w) : w.Standard := by
  rcases h with ⟨mnemonic, operand, rfl⟩ | ⟨c, leavesValue, rfl⟩
  · obtain ⟨op, -, rfl⟩ := Option.map_eq_some_iff.mp hw
    exact ⟨rfl, fun _ => rfl, op.pushes_le_one⟩
  · simp only [Emission.invokeLate, Emission.entryAt?, Option.map_eq_some_iff] at hw
    obtain ⟨op, hop, rfl⟩ := hw
    have hlate : op = .invokeLate := OpCode.mnemonic_injective (OpCode.ofMnemonic?_eq_some_iff.mp hop)
    subst hlate
    exact ⟨rfl, fun hne => absurd rfl hne, leavesValue.toNat_le⟩

theorem Request.Standard.entryOf? {q : Request} (h : q.Standard) {e : Encoder} {w : Entry}
    (hw : e.entryOf? q = some w) : w.Standard := by
  cases q with
  | write m =>
    simp only [Encoder.entryOf?] at hw
    split at hw
    · exact Emission.Standard.entryAt? h hw
    · cases hw
  | declareLocal p t => cases hw

namespace Frame

variable {hosts : Table CallableName Host}

/-! ## One step -/

/-- How a step may answer to an entry: it goes on at the new depth, or
returns, or traps for a reason that could not be foreseen. -/
inductive Follows (f : Frame) (w : Entry) : Progress → Prop
  | goes {g : Frame} (notRet : w.instruction.opcode ≠ .ret) (locals : g.locals.size = f.locals.size)
      (stack : g.stack.length = f.stack.length - w.pops + w.pushes) : Follows f w (.going g)
  | returns (ret : w.instruction.opcode = .ret) :
      Follows f w (.ended (.ok f.stack.head?) { f with stack := f.stack.tail })
  | traps {t : Trap} {g : Frame} (foreseen : t.isStatic = false) : Follows f w (.ended (.error t) g)

theorem makeArray_follows {f : Frame} {t : TypeName} {before : Nat} (h : 1 ≤ f.stack.length) :
    f.Follows ⟨⟨.newarr, .type t⟩, 1, 1, before⟩ f.makeArray := by
  unfold makeArray
  split
  · rename_i hs; simp [hs] at h
  · rename_i n rest hs
    split
    · exact .traps rfl
    · exact .goes (by simp) rfl (by simp [hs])
  · exact .traps rfl

theorem storeElement_follows {f : Frame} {before : Nat} (h : 3 ≤ f.stack.length) :
    f.Follows ⟨⟨.stelemRef, .none⟩, 3, 0, before⟩ f.storeElement := by
  unfold storeElement
  split
  · rename_i v i position rest hs
    split
    · exact .traps rfl
    · split
      · exact .goes (by simp) rfl (by simp [hs])
      · exact .traps rfl
  · exact .traps rfl
  · rename_i hshort
    rcases hs : f.stack with _ | ⟨a, _ | ⟨b, _ | ⟨c, rest⟩⟩⟩
    case cons.cons.cons => exact absurd hs (hshort a b c rest)
    all_goals simp [hs] at h

/-- A late call pushes as many values as it was written with. -/
theorem callLate_follows {f : Frame} {c : CallableName} {pushes before : Nat}
    (h : 2 ≤ f.stack.length) (hle : pushes ≤ 1)
    (hagree : Entry.AgreesWith hosts ⟨⟨.invokeLate, .callable c⟩, 2, pushes, before⟩) :
    f.Follows ⟨⟨.invokeLate, .callable c⟩, 2, pushes, before⟩ (f.callLate hosts c) := by
  unfold callLate
  split
  · rename_i position receiver rest hs
    split
    · exact .traps rfl
    · rename_i host hhost
      refine .goes (by simp) rfl ?_
      have hvalue := hagree c rfl host hhost f.heap ((f.heap.items? position).getD #[]).toList
      cases hv : (host f.heap ((f.heap.items? position).getD #[]).toList).value with
      | none =>
        have : pushes ≠ 1 := by simpa [hv] using hvalue
        simp [hs]
        omega
      | some v =>
        have : pushes = 1 := by simpa [hv] using hvalue
        simp [hs, this]
  · exact .traps rfl
  · rename_i hnot hshort
    rcases hs : f.stack with _ | ⟨a, _ | ⟨b, rest⟩⟩
    case cons.cons => exact absurd hs (hshort a b rest)
    all_goals simp [hs] at h

/-- **Every step follows an entry that was admitted**: where the kind of the
operand, the slot and the values on the stack were checked, the machine goes
on at the depth that the encoder went on with. -/
theorem step_follows {f : Frame} {w : Entry} (hw : w.Standard) (hagree : w.AgreesWith hosts)
    (hkind : w.instruction.operand.kind = w.instruction.opcode.operand)
    (hslot : ∀ s, w.instruction.operand = .slot s → s.index.toNat < f.locals.size)
    (hpops : w.pops ≤ f.stack.length) : f.Follows w (f.step hosts w.instruction) := by
  obtain ⟨⟨op, operand⟩, pops, pushes, before⟩ := w
  obtain ⟨hpop, hpush, hle⟩ := hw
  dsimp only at *
  subst hpop
  cases op
  case invokeLate =>
    cases operand <;> simp only [Operand.kind, OpCode.operand, reduceCtorEq] at hkind
    exact callLate_follows hpops hle hagree
  -- All other opcodes push what the table says.
  all_goals
    have hp := hpush (by decide)
    subst hp
    cases operand <;> simp only [Operand.kind, OpCode.operand, reduceCtorEq] at hkind
  case nop.none => exact .goes (by simp) rfl rfl
  case ldnull.none => exact .goes (by simp) rfl rfl
  case ldcI4.int32 => exact .goes (by simp) rfl rfl
  case ldarg.argument index =>
    simp only [step]
    split
    · exact .traps rfl
    · exact .goes (by simp) rfl rfl
  case ldloc.slot s =>
    have hs := hslot s rfl
    simp only [step, Array.getElem?_eq_getElem hs]
    exact .goes (by simp) rfl rfl
  case stloc.slot s =>
    simp only [step]
    split
    · rename_i hs; simp [hs, OpCode.pops] at hpops
    · rename_i v rest hs
      rw [if_pos (hslot s rfl)]
      exact .goes (by simp) (by simp) (by simp [hs, OpCode.pops, OpCode.pushes])
  case ldftn.callable => exact .goes (by simp) rfl rfl
  case newobj.adapter =>
    simp only [step]
    split
    · rename_i hs; simp [hs, OpCode.pops] at hpops
    · rename_i c rest hs
      exact .goes (by simp) rfl (by simp [hs, OpCode.pops, OpCode.pushes])
    · exact .traps rfl
  case newarr.type => exact makeArray_follows hpops
  case box.type =>
    simp only [step]
    split
    · rename_i hs; simp [hs, OpCode.pops] at hpops
    · rename_i v rest hs
      exact .goes (by simp) rfl (by simp [hs, OpCode.pops, OpCode.pushes])
  case stelemRef.none => exact storeElement_follows hpops
  case ret.none => exact .returns rfl

/-! ## Whole runs -/

/-- A run through the instructions of some entries is safe: it traps only
for a reason that could not be foreseen, it returns from a stack of a known
depth, and it comes to each entry at the depth recorded there. -/
structure SafeRun (hosts : Table CallableName Host) (f : Frame) (ws : List Entry) (depth : Nat) :
    Prop where
  traps : ∀ t, (f.run hosts (ws.map (·.instruction))).1 = .error t → t.isStatic = false
  returns : ∀ v, (f.run hosts (ws.map (·.instruction))).1 = .ok v →
    ∃ stack : List Value, stack.length = depth ∧ v = stack.head? ∧
      (f.run hosts (ws.map (·.instruction))).2.stack = stack.tail
  heights : ∀ front w back, ws = front ++ w :: back →
    ∀ g, f.reach? hosts (front.map (·.instruction)) = some g → g.stack.length = w.before

/-- The first entry is reached at once, so its depth is that of the stack. -/
theorem heights_cons {f : Frame} {w : Entry} {ws : List Entry} (hbefore : f.stack.length = w.before)
    (hrest : ∀ front v back, ws = front ++ v :: back →
      ∀ g, f.reach? hosts ((w :: front).map (·.instruction)) = some g → g.stack.length = v.before)
    (front : List Entry) (v : Entry) (back : List Entry) (h : w :: ws = front ++ v :: back)
    (g : Frame) (hg : f.reach? hosts (front.map (·.instruction)) = some g) :
    g.stack.length = v.before := by
  cases front with
  | nil =>
    obtain ⟨rfl, -⟩ := List.cons.inj h
    cases hg
    exact hbefore
  | cons u front =>
    obtain ⟨rfl, hws⟩ := List.cons.inj h
    exact hrest front v back hws g hg

theorem SafeRun.cons_going {f g : Frame} {w : Entry} {ws : List Entry} {depth : Nat}
    (hbefore : f.stack.length = w.before) (hstep : f.step hosts w.instruction = .going g)
    (h : g.SafeRun hosts ws depth) : f.SafeRun hosts (w :: ws) depth := by
  have hrun : f.run hosts ((w :: ws).map (·.instruction)) =
      g.run hosts (ws.map (·.instruction)) := by rw [List.map_cons, run_cons hstep]
  refine ⟨by rw [hrun]; exact h.traps, by rw [hrun]; exact h.returns, heights_cons hbefore ?_⟩
  intro front v back hws k hk
  rw [List.map_cons, reach?_cons hstep] at hk
  exact h.heights front v back hws k hk

theorem SafeRun.cons_ended {f g : Frame} {w : Entry} {ws : List Entry} {depth : Nat}
    {result : Except Trap (Option Value)} (hbefore : f.stack.length = w.before)
    (hstep : f.step hosts w.instruction = .ended result g)
    (htraps : ∀ t, result = .error t → t.isStatic = false)
    (hreturns : ∀ v, result = .ok v → ∃ stack : List Value, stack.length = depth ∧
      v = stack.head? ∧ g.stack = stack.tail) : f.SafeRun hosts (w :: ws) depth := by
  have hrun : f.run hosts ((w :: ws).map (·.instruction)) = (result, g) := by
    rw [List.map_cons, run_of_ended hstep]
  refine ⟨by rw [hrun]; exact htraps, by rw [hrun]; exact hreturns, heights_cons hbefore ?_⟩
  intro front v back _ k hk
  simp [reach?, hstep] at hk

/-- **A run follows the writing.** The induction is on the requests, and the
invariant that carries it is that the stack is as high as the encoder is
deep and that every slot declared up to the end has a local. -/
theorem run_follows (qs : List Request) {e : Encoder} {f : Frame}
    (hstd : ∀ q ∈ qs, q.Standard) (hagree : ∀ w ∈ e.history qs, w.AgreesWith hosts)
    (hstack : f.stack.length = e.depth) (hlocals : (e.afterAll qs).locals.length ≤ f.locals.size)
    (hopen : e.ended = false) (hended : (e.afterAll qs).ended = true) :
    f.SafeRun hosts (e.history qs) (e.afterAll qs).depth := by
  induction qs generalizing e f with
  | nil => simp [hopen] at hended
  | cons q rest ih =>
    rw [Encoder.afterAll_cons] at hlocals hended ⊢
    have hstd' : ∀ r ∈ rest, r.Standard := fun r hr => hstd r (List.mem_cons_of_mem q hr)
    rcases Encoder.after_cases e q with
      ⟨ha, hq⟩ | ⟨w, hq, hadm, ha⟩ | ⟨p, t, -, hq, -, -, ha⟩
    · simp only [Encoder.history, hq, ha, Option.toList_none, List.nil_append] at hagree hlocals hended ⊢
      exact ih hstd' hagree hstack hlocals hopen hended
    · simp only [Encoder.history, hq, Option.toList_some, List.singleton_append] at hagree ⊢
      have hbefore : f.stack.length = w.before := by rw [hstack, hadm.before_eq]
      have hslot : ∀ s, w.instruction.operand = .slot s → s.index.toNat < f.locals.size := by
        intro s hs
        have hd : s.index.toNat < e.locals.length := by
          simpa [Encoder.declares] using hadm.declared s hs
        have hle := (Encoder.locals_prefix_afterAll (e.after q) rest).length_le
        rw [ha, Encoder.locals_withEntry, ← ha] at hle
        omega
      have hw := (hstd q (List.mem_cons_self ..)).entryOf? hq
      have hstep := step_follows hw (hagree w (List.mem_cons_self ..)) hadm.kind_eq hslot
        (by rw [hstack]; exact hadm.pops_le)
      generalize hprogress : f.step hosts w.instruction = progress at hstep
      cases hstep with
      | @goes g notRet locals stack =>
        have hdepth : g.stack.length = (e.after q).depth := by
          have hchange := Encoder.depth_withEntry hadm
          have hpops := hadm.pops_le
          rw [Entry.change] at hchange
          rw [ha]
          omega
        have hstill : (e.after q).ended = false := by
          rw [ha, Bool.eq_false_iff]
          exact fun h => notRet ((Encoder.ended_withEntry_iff e w).mp h)
        exact SafeRun.cons_going hbefore hprogress (ih hstd'
          (fun v hv => hagree v (List.mem_cons_of_mem w hv)) hdepth (by omega) hstill hended)
      | returns ret =>
        have hend : (e.after q).ended = true := by
          rw [ha]; exact (Encoder.ended_withEntry_iff e w).mpr ret
        have hdepth : f.stack.length = ((e.after q).afterAll rest).depth := by
          have hchange := Encoder.depth_withEntry hadm
          have hrest := Encoder.depth_afterAll (e.after q) rest
          rw [Encoder.history_of_ended hend, Entry.net_nil] at hrest
          rw [← ha, Entry.change, hw.pops_eq, hw.pushes_eq (by simp [ret]), ret] at hchange
          simp only [OpCode.pops, OpCode.pushes] at hchange
          omega
        rw [Encoder.history_of_ended hend]
        refine SafeRun.cons_ended hbefore hprogress (fun t ht => by cases ht) ?_
        intro v hv
        exact ⟨f.stack, hdepth, (Except.ok.inj hv).symm, rfl⟩
      | @traps t g foreseen =>
        refine SafeRun.cons_ended hbefore hprogress ?_ (fun v hv => by cases hv)
        intro u hu
        rw [← Except.error.inj hu]
        exact foreseen
    · have hdeclared : (e.after q).depth = e.depth ∧ (e.after q).ended = e.ended := by
        simp [ha]
      simp only [Encoder.history, hq, Option.toList_none, List.nil_append] at hagree ⊢
      exact ih hstd' hagree (by rw [hstack, hdeclared.1]) hlocals (by rw [hdeclared.2, hopen]) hended

end Frame

/-! ## Finished bodies -/

/-- The depth recorded in any entry is at most the greatest depth. -/
theorem Encoder.before_le_maxDepth {qs : List Request} {front back : List Entry} {w : Entry}
    (h : fresh.history qs = front ++ w :: back) : w.before ≤ (fresh.afterAll qs).maxDepth := by
  have hbefore := befores_history fresh qs front back w h
  have hmem : (w.before : Int) ∈ Entry.heights (fresh.history qs) := by
    refine ⟨front, ?_, by simpa using hbefore⟩
    rw [h]
    exact List.prefix_append _ _
  have hle := (isGreatest_maxDepth_afterAll qs).2 hmem
  omega

/-- **Finished bodies are safe.** A body was written by any requests for
standard instructions and for locals, granted or refused; the machine's
hosts leave a value exactly where a granted late call was written so. Then
no run of it underflows the stack, meets an instruction that it cannot
read, falls off the end or names a local that is not there; and wherever a
run comes to an instruction, the stack is as high as the encoder was deep
just before it wrote that instruction, so it is never higher than the code
says. -/
theorem execute_safe {qs : List Request} {code : Code} {m : Machine}
    (hstd : ∀ q ∈ qs, q.Standard) (hcode : (Encoder.fresh.afterAll qs).finalize = .ok code)
    (hagree : ∀ w ∈ Encoder.fresh.history qs, w.AgreesWith m.hosts) (arguments : List Value) :
    code.instructions = (Encoder.fresh.history qs).map (·.instruction) ∧
    (∀ t, (m.execute code arguments).1 = .error t →
      t ≠ .underflow ∧ (∀ i, t ≠ .unexpected i) ∧ t ≠ .fellOff ∧ ∀ s, t ≠ .localOutOfRange s) ∧
    ∀ front w back, Encoder.fresh.history qs = front ++ w :: back →
      ∀ g, (m.start code arguments).reach? m.hosts (front.map (·.instruction)) = some g →
        g.stack.length = w.before ∧ g.stack.length ≤ code.maxStack := by
  obtain ⟨hended, rfl⟩ := Encoder.finalize_eq_ok_iff.mp hcode
  have hinstructions : (Encoder.fresh.afterAll qs).instructions.toList =
      (Encoder.fresh.history qs).map (·.instruction) := by
    simpa using Encoder.toList_instructions_afterAll Encoder.fresh qs
  have hsafe := Frame.run_follows (f := m.start ⟨(Encoder.fresh.afterAll qs).instructions.toList,
    (Encoder.fresh.afterAll qs).locals, (Encoder.fresh.afterAll qs).maxDepth⟩ arguments) qs hstd hagree
    (by simp [Machine.start]) (by simp [Machine.start]) rfl hended
  refine ⟨hinstructions, ?_, ?_⟩
  · intro t ht
    have hstatic : t.isStatic = false := by
      apply hsafe.traps t
      rw [← hinstructions]
      exact ht
    refine ⟨?_, ?_, ?_, ?_⟩
    · rintro rfl; cases hstatic
    · rintro i rfl; cases hstatic
    · rintro rfl; cases hstatic
    · rintro s rfl; cases hstatic
  · intro front w back h g hg
    have hheight := hsafe.heights front w back h g hg
    exact ⟨hheight, by rw [hheight]; exact Encoder.before_le_maxDepth h⟩

/-- A call that leaves a value, with two refused instructions around it. -/
def callingRequests : List Request :=
  [.write .stelemRef, .declareLocal .arguments (.array ⟨"object"⟩), .write .ldnull,
    .write (.ldcI4 0), .write (.newarr ⟨"object"⟩), .write (.stloc ⟨0⟩), .write (.ldloc ⟨0⟩),
    .write (.invokeLate ⟨"f"⟩ true), .write .ret, .write .nop]

/-- A machine on which `f` leaves a number. -/
def callingMachine : Machine := Machine.new.setHost ⟨"f"⟩ (.constant (.int32 7))

theorem execute_safe_calling :
    ∃ code, (Encoder.fresh.afterAll callingRequests).finalize = .ok code ∧
      (callingMachine.execute code []).1 = .ok (some (.int32 7)) ∧
      ∀ front w back, Encoder.fresh.history callingRequests = front ++ w :: back →
        ∀ g, (callingMachine.start code []).reach? callingMachine.hosts
          (front.map (·.instruction)) = some g →
          g.stack.length = w.before ∧ g.stack.length ≤ code.maxStack := by
  have hstd : ∀ q ∈ callingRequests, q.Standard := by
    simp [callingRequests, Request.Standard, Emission.Standard, Emission.stelemRef, Emission.ldnull,
      Emission.ldcI4, Emission.newarr, Emission.stloc, Emission.ldloc, Emission.invokeLate,
      Emission.ret, Emission.nop]
  have hpushes : ∀ w ∈ Encoder.fresh.history callingRequests,
      w.instruction.opcode = .invokeLate → w.pushes = 1 := by decide +kernel
  have hagree : ∀ w ∈ Encoder.fresh.history callingRequests, w.AgreesWith callingMachine.hosts := by
    intro w hw c hc host hhost heap arguments
    have hconst : host = .constant (.int32 7) := by
      simp only [callingMachine, Machine.setHost, Table.find?_put] at hhost
      split at hhost
      · exact (Option.some.inj hhost).symm
      · cases hhost
    rw [hconst, hpushes w hw (by rw [hc])]
    simp [Host.constant]
  exact ⟨_, rfl, rfl, (execute_safe hstd rfl hagree []).2.2⟩

end TypeSynthesis
