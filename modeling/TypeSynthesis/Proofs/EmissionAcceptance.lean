/-
TypeSynthesis.Proofs.EmissionAcceptance — which instructions are accepted,
and what is said of the others.

Six conditions decide on an instruction, whichever way it is written. They
are stated here without the writer's own checks: a return stands nowhere in
the body, a local has the slot. The writer keeps a flag for the first and
counts locals for the second, and both come to the same in every encoder
that was ever fresh.

* `Condition`, `Encoder.Meets` — the conditions, in the order in which they
  are asked about, and what each of them asks.
* `Encoder.FirstUnmet`, `Encoder.Blames` — the first one that fails, and the
  fault that names it.
* `write_of_meets`, `write_of_firstUnmet` — all of them met, or one of them
  the first to fail.
* `write_determined` — every instruction, in every encoder.
-/
import TypeSynthesis.Proofs.EncoderInvariant

namespace TypeSynthesis

/-! ## Instructions to be written -/

namespace Emission

/-- The mnemonic, whichever way the instruction is written. -/
def mnemonic : Emission → String
  | .plain mnemonic _ | .call mnemonic .. => mnemonic

/-- The operand, whichever way the instruction is written. -/
def operand : Emission → Operand
  | .plain _ operand | .call _ operand .. => operand

/-- The instruction is written as a call, with a stack effect of its own. -/
def asCall : Emission → Bool
  | .plain .. => false
  | .call .. => true

/-- The number of values popped if the instruction has that opcode. -/
def pops (m : Emission) (op : OpCode) : Nat :=
  match m with
  | .plain .. => op.pops
  | .call _ _ arguments _ => arguments.toNat

/-- The number of values pushed if the instruction has that opcode. -/
def pushes (m : Emission) (op : OpCode) : Nat :=
  match m with
  | .plain .. => op.pushes
  | .call _ _ _ leavesValue => leavesValue.toNat

end Emission

/-! ## Conditions -/

/-- What is asked about an instruction: its mnemonic is in the instruction
set, it is a call if it is written as one, the body is open, the operand is
of the right kind, its slot is declared, the stack holds the values to be
popped. -/
inductive Condition where
  | known
  | call
  | opened
  | operand
  | slot
  | depth
  deriving DecidableEq, Repr

namespace Condition

/-- The conditions, in the order in which they are asked about. -/
def all : List Condition := [known, call, opened, operand, slot, depth]

/-- The conditions that are asked about before this one. -/
def earlier (c : Condition) : List Condition := all.takeWhile (· ≠ c)

/-- What is asked about before an earlier condition is less. -/
theorem length_earlier_lt {c d : Condition} (h : d ∈ c.earlier) :
    d.earlier.length < c.earlier.length := by
  revert h
  cases c <;> cases d <;> decide

end Condition

namespace Encoder

/-- What each of the conditions asks. -/
def Meets (e : Encoder) (m : Emission) : Condition → Prop
  | .known => ∃ op : OpCode, op.mnemonic = m.mnemonic
  | .call => ∀ op : OpCode, op.mnemonic = m.mnemonic → m.asCall = true → op.flow = .call
  | .opened => ∀ i ∈ e.instructions.toList, i.opcode ≠ .ret
  | .operand => ∀ op : OpCode, op.mnemonic = m.mnemonic → m.operand.kind = op.operand
  | .slot => ∀ s, m.operand = .slot s → ∃ l ∈ e.locals, l.slot = s
  | .depth => ∀ op : OpCode, op.mnemonic = m.mnemonic → m.pops op ≤ e.depth

/-- The condition fails, and all that are asked about before it are met. -/
def FirstUnmet (e : Encoder) (m : Emission) (c : Condition) : Prop :=
  (∀ d ∈ c.earlier, e.Meets m d) ∧ ¬e.Meets m c

/-- The fault that names a failed condition. -/
def Blames (e : Encoder) (m : Emission) (c : Condition) (fault : Fault) : Prop :=
  match c with
  | .known => fault = .unknownMnemonic m.mnemonic
  | .call => ∃ op : OpCode, op.mnemonic = m.mnemonic ∧ fault = .notACall op
  | .opened => ∃ op : OpCode, op.mnemonic = m.mnemonic ∧ fault = .afterReturn op
  | .operand => ∃ op : OpCode, op.mnemonic = m.mnemonic ∧ fault = .wrongOperand op
  | .slot => ∃ op : OpCode, op.mnemonic = m.mnemonic ∧
      ∃ s, m.operand = .slot s ∧ fault = .undeclaredLocal s op
  | .depth => ∃ op : OpCode, op.mnemonic = m.mnemonic ∧ fault = .stackUnderflow op e.depth

variable {e : Encoder} {m : Emission} {op : OpCode} {fault : Fault}

/-- Where some condition fails, one of them is the first to fail. -/
theorem exists_firstUnmet (c : Condition) (hc : ¬e.Meets m c) : ∃ d, e.FirstUnmet m d := by
  by_cases hearlier : ∀ d ∈ c.earlier, e.Meets m d
  · exact ⟨c, hearlier, hc⟩
  · simp only [not_forall] at hearlier
    obtain ⟨d, hd, hunmet⟩ := hearlier
    exact exists_firstUnmet d hunmet
termination_by c.earlier.length
decreasing_by exact Condition.length_earlier_lt hd

/-- The first condition to fail has a fault. -/
theorem FirstUnmet.exists_blames {c : Condition} (h : e.FirstUnmet m c) :
    ∃ fault, e.Blames m c fault := by
  by_cases hknown : e.Meets m .known
  case neg =>
    cases c with
    | known => exact ⟨_, rfl⟩
    | _ => exact absurd (h.1 .known (by decide)) hknown
  case pos =>
    obtain ⟨op, hop⟩ := hknown
    cases c with
    | known => exact absurd ⟨op, hop⟩ h.2
    | call => exact ⟨.notACall op, op, hop, rfl⟩
    | opened => exact ⟨.afterReturn op, op, hop, rfl⟩
    | operand => exact ⟨.wrongOperand op, op, hop, rfl⟩
    | slot =>
      obtain ⟨s, hs⟩ := not_forall.mp h.2
      obtain ⟨hs, -⟩ := Classical.not_imp.mp hs
      exact ⟨.undeclaredLocal s op, op, hop, s, hs, rfl⟩
    | depth => exact ⟨.stackUnderflow op e.depth, op, hop, rfl⟩

/-! ## The writer's own checks -/

/-- No opcode has the mnemonic. -/
theorem write_of_unknown (h : ¬e.Meets m .known) :
    e.write m = .refuse (.unknownMnemonic m.mnemonic) e := by
  have hnone : OpCode.ofMnemonic? m.mnemonic = none := by
    rw [Option.eq_none_iff_forall_ne_some]
    intro op hop
    exact h ⟨op, OpCode.ofMnemonic?_eq_some_iff.mp hop⟩
  cases m <;> simp only [Emission.mnemonic] at hnone <;> simp [write, hnone, Emission.mnemonic]

/-- Both ways of writing an instruction come down to `writeOp` with the
effect that goes with them, unless something is written as a call that is
none. -/
theorem write_of_mnemonic (h : op.mnemonic = m.mnemonic) :
    e.write m =
      if m.asCall = true → op.flow = .call then
        e.writeOp op m.operand (m.pops op) (m.pushes op)
      else .refuse (.notACall op) e := by
  have hop := OpCode.ofMnemonic?_eq_some_iff.mpr h
  cases m with
  | plain mnemonic operand =>
    simp only [Emission.mnemonic] at hop
    simp [write, hop, Emission.asCall, Emission.operand, Emission.pops, Emission.pushes]
  | call mnemonic operand arguments leavesValue =>
    simp only [Emission.mnemonic] at hop
    simp [write, hop, Emission.asCall, Emission.operand, Emission.pops, Emission.pushes]

/-- What holds of all opcodes of the mnemonic holds of the only one. -/
theorem forall_of_mnemonic_iff (h : op.mnemonic = m.mnemonic) (P : OpCode → Prop) :
    (∀ other : OpCode, other.mnemonic = m.mnemonic → P other) ↔ P op := by
  constructor
  · intro hall
    exact hall op h
  · intro hp other hother
    rwa [OpCode.mnemonic_injective (hother.trans h.symm)]

theorem meets_call_iff (h : op.mnemonic = m.mnemonic) :
    e.Meets m .call ↔ (m.asCall = true → op.flow = .call) :=
  forall_of_mnemonic_iff h _

theorem meets_operand_iff (h : op.mnemonic = m.mnemonic) :
    e.Meets m .operand ↔ m.operand.kind = op.operand :=
  forall_of_mnemonic_iff h _

theorem meets_depth_iff (h : op.mnemonic = m.mnemonic) :
    e.Meets m .depth ↔ m.pops op ≤ e.depth :=
  forall_of_mnemonic_iff h _

/-- The flag says that a return was written. -/
theorem WellKept.meets_opened_iff (h : e.WellKept) : e.Meets m .opened ↔ e.ended = false := by
  constructor
  · intro hmeets
    rw [Bool.eq_false_iff]
    intro hended
    obtain ⟨last, hlast, hret⟩ := Option.map_eq_some_iff.mp (h.ended_iff.mp hended)
    exact hmeets last (List.mem_of_getLast? hlast) hret
  · exact h.opcode_ne_ret

/-- Slots are declared by counting, since locals are numbered in order. -/
theorem WellKept.declares_iff (h : e.WellKept) (s : Slot) :
    e.declares s = true ↔ ∃ l ∈ e.locals, l.slot = s := by
  rw [declares, decide_eq_true_eq]
  constructor
  · intro hs
    have hslot := h.slot_eq _ _ (List.getElem?_eq_getElem hs)
    exact ⟨_, List.getElem_mem hs, congrArg Slot.mk (UInt16.toNat.inj hslot)⟩
  · rintro ⟨l, hl, rfl⟩
    obtain ⟨k, hk, rfl⟩ := List.mem_iff_getElem.mp hl
    rw [h.slot_eq k _ (List.getElem?_eq_getElem hk)]
    exact hk

theorem WellKept.meets_slot_iff (h : e.WellKept) :
    e.Meets m .slot ↔ ∀ s, m.operand = .slot s → e.declares s = true :=
  forall₂_congr fun s _ => (h.declares_iff s).symm

/-! ## Accepted and refused -/

/-- An instruction that meets all conditions is appended. -/
theorem WellKept.write_of_meets (h : e.WellKept) (hmeets : ∀ c, e.Meets m c)
    (hop : op.mnemonic = m.mnemonic) :
    e.write m =
      .accept () (e.append op m.operand (m.pops op) (m.pushes op)) [.emitted ⟨op, m.operand⟩] := by
  have hnone : e.complaint? op m.operand (m.pops op) = none :=
    (complaint?_eq_none_iff ..).mpr ⟨h.meets_opened_iff.mp (hmeets .opened),
      hmeets .operand op hop, h.meets_slot_iff.mp (hmeets .slot), hmeets .depth op hop⟩
  rw [write_of_mnemonic hop, if_pos (hmeets .call op hop), writeOp, hnone]

/-- An instruction is refused with the fault of the first condition that
fails, and nothing else happens. -/
theorem WellKept.write_of_firstUnmet (h : e.WellKept) {c : Condition} (hc : e.FirstUnmet m c)
    (hfault : e.Blames m c fault) : e.write m = .refuse fault e := by
  obtain ⟨hearlier, hunmet⟩ := hc
  cases c with
  | known =>
    rw [show fault = _ from hfault]
    exact write_of_unknown hunmet
  | call =>
    obtain ⟨op, hop, rfl⟩ := hfault
    rw [write_of_mnemonic hop, if_neg (mt (meets_call_iff hop).mpr hunmet)]
  | opened =>
    obtain ⟨op, hop, rfl⟩ := hfault
    have hended : e.ended = true := by simpa [h.meets_opened_iff] using hunmet
    rw [write_of_mnemonic hop, if_pos (hearlier .call (by decide) op hop)]
    simp [writeOp, complaint?, hended]
  | operand =>
    obtain ⟨op, hop, rfl⟩ := hfault
    have hopen := h.meets_opened_iff.mp (hearlier .opened (by decide))
    have hkind : m.operand.kind ≠ op.operand := mt (meets_operand_iff hop).mpr hunmet
    rw [write_of_mnemonic hop, if_pos (hearlier .call (by decide) op hop)]
    simp [writeOp, complaint?, hopen, hkind]
  | slot =>
    obtain ⟨op, hop, s, hs, rfl⟩ := hfault
    have hopen := h.meets_opened_iff.mp (hearlier .opened (by decide))
    have hkind := hearlier .operand (by decide) op hop
    have hundeclared : e.declares s = false := by
      rw [Bool.eq_false_iff]
      intro hd
      refine hunmet (h.meets_slot_iff.mpr fun t ht => ?_)
      rwa [← Operand.slot.inj (hs.symm.trans ht)]
    rw [write_of_mnemonic hop, if_pos (hearlier .call (by decide) op hop)]
    rw [hs] at hkind ⊢
    simp [writeOp, complaint?, hopen, hkind, undeclared?, hundeclared]
  | depth =>
    obtain ⟨op, hop, rfl⟩ := hfault
    have hopen := h.meets_opened_iff.mp (hearlier .opened (by decide))
    have hkind := hearlier .operand (by decide) op hop
    have hslot : e.undeclared? m.operand = none := by
      have hdeclared := h.meets_slot_iff.mp (hearlier .slot (by decide))
      cases ho : m.operand with
      | slot s => simp [undeclared?, hdeclared s ho]
      | _ => rfl
    have hdepth : e.depth < m.pops op := Nat.not_le.mp (mt (meets_depth_iff hop).mpr hunmet)
    rw [write_of_mnemonic hop, if_pos (hearlier .call (by decide) op hop)]
    simp [writeOp, complaint?, hopen, hkind, hslot, hdepth]

/-- An instruction is accepted exactly when it meets all conditions. -/
theorem WellKept.result_write_eq_ok_iff (h : e.WellKept) :
    (e.write m).result = .ok () ↔ ∀ c, e.Meets m c := by
  constructor
  · intro hok c
    by_contra hc
    obtain ⟨d, hd⟩ := exists_firstUnmet c hc
    obtain ⟨fault, hfault⟩ := hd.exists_blames
    rw [h.write_of_firstUnmet hd hfault] at hok
    cases hok
  · intro hmeets
    obtain ⟨op, hop⟩ := hmeets .known
    rw [h.write_of_meets hmeets hop]
    rfl

/-- An instruction is refused exactly with the fault of the first condition
that fails. -/
theorem WellKept.result_write_eq_error_iff (h : e.WellKept) :
    (e.write m).result = .error fault ↔ ∃ c, e.FirstUnmet m c ∧ e.Blames m c fault := by
  constructor
  · intro herror
    have hunmet : ¬∀ c, e.Meets m c := by
      intro hmeets
      rw [h.result_write_eq_ok_iff.mpr hmeets] at herror
      cases herror
    obtain ⟨c, hc⟩ := not_forall.mp hunmet
    obtain ⟨d, hd⟩ := exists_firstUnmet c hc
    obtain ⟨other, hother⟩ := hd.exists_blames
    rw [h.write_of_firstUnmet hd hother] at herror
    cases herror
    exact ⟨d, hd, hother⟩
  · rintro ⟨c, hc, hfault⟩
    rw [h.write_of_firstUnmet hc hfault]
    rfl

/-! ## All together -/

/-- **An instruction is judged by six conditions, in their order.** Whatever
was asked of a fresh encoder before, an instruction is accepted exactly when
it meets all of them, and otherwise refused with the fault of the first one
that fails. A refused instruction leaves the encoder as it was and is not
told. An accepted one is appended, the locals stay, the depth follows the
stack effect, and one event tells the instruction in its written form. -/
theorem write_determined (qs : List Request) (m : Emission) :
    let e := fresh.afterAll qs
    let o := e.write m
    (o.result = .ok () ↔ ∀ c, e.Meets m c) ∧
    (∀ fault, o.result = .error fault ↔ ∃ c, e.FirstUnmet m c ∧ e.Blames m c fault) ∧
    (∀ fault, o.result = .error fault → o.state = e ∧ o.told = []) ∧
    (o.result = .ok () → ∃ op : OpCode, op.mnemonic = m.mnemonic ∧
      o.state.instructions.toList = e.instructions.toList ++ [⟨op, m.operand⟩] ∧
      o.state.locals = e.locals ∧
      o.state.depth + m.pops op = e.depth + m.pushes op ∧
      o.state.maxDepth = max e.maxDepth o.state.depth ∧
      (o.state.ended = true ↔ op = .ret) ∧
      o.told = [.emitted ⟨op, m.operand⟩] ∧
      o.told.map (fun event => (event.level, event.message)) =
        [(.trace, "emit " ++ (Instruction.mk op m.operand).text)]) := by
  intro e o
  have hkept : e.WellKept := wellKept_afterAll qs
  refine ⟨hkept.result_write_eq_ok_iff, fun fault => hkept.result_write_eq_error_iff, ?_, ?_⟩
  · intro fault hfault
    show (e.write m).state = e ∧ (e.write m).told = []
    rw [write_of_error hfault]
    exact ⟨rfl, rfl⟩
  · intro hok
    have hmeets := hkept.result_write_eq_ok_iff.mp hok
    obtain ⟨op, hop⟩ := hmeets .known
    have ho : o = .accept () (e.append op m.operand (m.pops op) (m.pushes op))
        [.emitted ⟨op, m.operand⟩] := hkept.write_of_meets hmeets hop
    have hpops : m.pops op ≤ e.depth := hmeets .depth op hop
    rw [ho]
    refine ⟨op, hop, by simp [append], rfl, ?_, rfl, ?_, rfl, rfl⟩
    · simp only [Outcome.state_accept, append]
      omega
    · rw [← OpCode.flow_eq_returns_iff]
      simp [append]

end Encoder

end TypeSynthesis
