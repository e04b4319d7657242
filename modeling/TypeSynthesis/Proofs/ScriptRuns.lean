/-
TypeSynthesis.Proofs.ScriptRuns — scripts that succeed and scripts that
fail, in parts.

`Script.Yields` and `Script.Fails` say what a script gives on an encoder and
which encoder it leaves. Both go through a composition, so a long script is
followed instruction by instruction.

* `Encoder.extended` — an encoder after straight-line writing: more
  instructions, another depth, a peak on the way.
* `write_yields` — an instruction that is in order extends the encoder.
* `declare_yields` — a declaration succeeds and commutes with the writing.
-/
import TypeSynthesis.Script
import TypeSynthesis.Proofs.EncoderInvariant

namespace TypeSynthesis

namespace Encoder

/-! ## Encoders after some writing -/

/-- The encoder with more instructions, at another depth, having been at a
peak on the way. -/
def extended (e : Encoder) (is : List Instruction) (depth peak : Nat) : Encoder :=
  { e with
    instructions := e.instructions ++ is.toArray
    depth := depth
    maxDepth := max e.maxDepth peak }

/-- The encoder with a local for a purpose, the one that it has or a new
one. -/
def declaring (e : Encoder) (p : Purpose) (t : LocalType) : Encoder := (e.declareLocal p t).state

/-- The slot for a purpose that has one. -/
def slotOf (e : Encoder) (p : Purpose) : Slot := (e.slotFor? p).getD ⟨0⟩

/-- The encoders differ in nothing but their locals. -/
structure SameBody (e other : Encoder) : Prop where
  instructions_eq : other.instructions = e.instructions
  depth_eq : other.depth = e.depth
  maxDepth_eq : other.maxDepth = e.maxDepth
  ended_eq : other.ended = e.ended

theorem SameBody.refl (e : Encoder) : e.SameBody e := ⟨rfl, rfl, rfl, rfl⟩

theorem SameBody.trans {e mid other : Encoder} (h : e.SameBody mid) (k : mid.SameBody other) :
    e.SameBody other where
  instructions_eq := k.instructions_eq.trans h.instructions_eq
  depth_eq := k.depth_eq.trans h.depth_eq
  maxDepth_eq := k.maxDepth_eq.trans h.maxDepth_eq
  ended_eq := k.ended_eq.trans h.ended_eq

theorem extended_nil (e : Encoder) : e.extended [] e.depth 0 = e := by
  simp [extended]

@[simp] theorem toList_instructions_extended (e : Encoder) (is : List Instruction) (d p : Nat) :
    (e.extended is d p).instructions.toList = e.instructions.toList ++ is := by
  simp [extended]

@[simp] theorem locals_extended (e : Encoder) (is : List Instruction) (d p : Nat) :
    (e.extended is d p).locals = e.locals := rfl

@[simp] theorem depth_extended (e : Encoder) (is : List Instruction) (d p : Nat) :
    (e.extended is d p).depth = d := rfl

@[simp] theorem maxDepth_extended (e : Encoder) (is : List Instruction) (d p : Nat) :
    (e.extended is d p).maxDepth = max e.maxDepth p := rfl

@[simp] theorem ended_extended (e : Encoder) (is : List Instruction) (d p : Nat) :
    (e.extended is d p).ended = e.ended := rfl

/-- An operand that names a declared slot names no other. -/
theorem declares_of_operand {e : Encoder} {slot : Slot} (h : e.declares slot = true) :
    ∀ s, Operand.slot slot = .slot s → e.declares s = true := by
  rintro s ⟨⟩
  exact h

/-- Writing anything but a return extends an open encoder. -/
theorem append_extended {e : Encoder} {op : OpCode} (hret : op ≠ .ret) (hopen : e.ended = false)
    (operand : Operand) (pops pushes : Nat) (is : List Instruction) (d p : Nat) :
    (e.extended is d p).append op operand pops pushes =
      e.extended (is ++ [⟨op, operand⟩]) (d - pops + pushes) (max p (d - pops + pushes)) := by
  have hflow : (op.flow == .returns) = false := by
    simpa using fun h => hret ((OpCode.flow_eq_returns_iff op).mp h)
  simp [append, extended, hflow, hopen, Nat.max_assoc]

/-- A declaration either changes nothing or adds one local. -/
theorem WellKept.declaring_cases {e : Encoder} (h : e.WellKept) (p : Purpose) (t : LocalType) :
    (∃ s, e.slotFor? p = some s ∧ e.declaring p t = e) ∨
      (e.slotFor? p = none ∧ e.declaring p t = e.withLocal p t) := by
  cases hs : e.slotFor? p with
  | some s => exact Or.inl ⟨s, rfl, by simp [declaring, declareLocal_of_slot hs]⟩
  | none => exact Or.inr ⟨rfl, by simp [declaring, declareLocal_of_new hs h.room]⟩

theorem WellKept.declaring {e : Encoder} (h : e.WellKept) (p : Purpose) (t : LocalType) :
    (e.declaring p t).WellKept := by
  rcases h.declaring_cases p t with ⟨s, -, hd⟩ | ⟨hnew, hd⟩
  · rwa [hd]
  · rw [hd]; exact h.withLocal hnew h.room t

theorem WellKept.sameBody_declaring {e : Encoder} (h : e.WellKept) (p : Purpose) (t : LocalType) :
    e.SameBody (e.declaring p t) := by
  rcases h.declaring_cases p t with ⟨s, -, hd⟩ | ⟨-, hd⟩
  · rw [hd]; exact SameBody.refl e
  · rw [hd]; exact ⟨rfl, rfl, rfl, rfl⟩

theorem WellKept.slotFor?_declaring {e : Encoder} (h : e.WellKept) (p : Purpose) (t : LocalType) :
    (e.declaring p t).slotFor? p = some ((e.declaring p t).slotOf p) := by
  obtain ⟨s, -, hs⟩ := h.declareLocal_eq p t
  simp [slotOf, Encoder.declaring, hs]

/-- The slot that a declaration gives is declared afterwards. -/
theorem WellKept.declares_slotOf {e : Encoder} (h : e.WellKept) (p : Purpose) (t : LocalType) :
    (e.declaring p t).declares ((e.declaring p t).slotOf p) = true :=
  (h.declaring p t).declares_of_slotFor? (h.slotFor?_declaring p t)

/-- A slot that is declared stays declared. -/
theorem WellKept.declares_declaring {e : Encoder} (h : e.WellKept) {s : Slot}
    (hs : e.declares s = true) (p : Purpose) (t : LocalType) :
    (e.declaring p t).declares s = true := by
  rcases h.declaring_cases p t with ⟨_, -, hd⟩ | ⟨-, hd⟩
  · rwa [hd]
  · simp only [hd, declares, locals_withLocal, List.length_append, decide_eq_true_eq] at hs ⊢
    omega

end Encoder

namespace Script

variable {α β : Type}

/-! ## Success and failure -/

/-- The script succeeds with a value and leaves an encoder. -/
def Yields (s : Script α) (e : Encoder) (a : α) (left : Encoder) : Prop :=
  (s.run e).result = .ok a ∧ (s.run e).state = left

/-- The script fails and leaves an encoder. -/
def Fails (s : Script α) (e : Encoder) (fault : Fault) (left : Encoder) : Prop :=
  (s.run e).result = .error fault ∧ (s.run e).state = left

theorem bind_assoc {γ : Type} (s : Script α) (f : α → Script β) (g : β → Script γ) :
    (s.bind f).bind g = s.bind fun a => (f a).bind g := by
  induction s with
  | done a => rfl
  | fail fault => rfl
  | emit m next ih => simp only [bind, ih]
  | declare p t next ih => simp only [bind, ih]
  | look next ih => simp only [bind, ih]

theorem Yields.done (a : α) (e : Encoder) : (Script.done a).Yields e a e := ⟨rfl, rfl⟩

theorem Fails.fail (fault : Fault) (e : Encoder) : (Script.fail fault : Script α).Fails e fault e :=
  ⟨rfl, rfl⟩

theorem Yields.bind {s : Script α} {next : α → Script β} {e mid left : Encoder} {a : α} {b : β}
    (hs : s.Yields e a mid) (hnext : (next a).Yields mid b left) :
    (s >>= next).Yields e b left := by
  obtain ⟨hr, rfl⟩ := hs
  rw [Yields, bind_eq, run_bind, hr]
  exact hnext

theorem Yields.bind_fails {s : Script α} {next : α → Script β} {e mid left : Encoder} {a : α}
    {fault : Fault} (hs : s.Yields e a mid) (hnext : (next a).Fails mid fault left) :
    (s >>= next).Fails e fault left := by
  obtain ⟨hr, rfl⟩ := hs
  rw [Fails, bind_eq, run_bind, hr]
  exact hnext

theorem Fails.bind {s : Script α} {e left : Encoder} {fault : Fault} (hs : s.Fails e fault left)
    (next : α → Script β) : (s >>= next).Fails e fault left := by
  obtain ⟨hr, rfl⟩ := hs
  rw [Fails, bind_eq, run_bind, hr]
  exact ⟨rfl, rfl⟩

/-! ## Instructions and locals -/

/-- Writing a plain instruction is appending it, where nothing is wrong. -/
theorem write_plain_yields {e : Encoder} {op : OpCode} {operand : Operand}
    (h : e.complaint? op operand op.pops = none) :
    (write (.plain op.mnemonic operand)).Yields e () (e.append op operand op.pops op.pushes) := by
  have hw : e.write (.plain op.mnemonic operand) =
      .accept () (e.append op operand op.pops op.pushes) [.emitted ⟨op, operand⟩] := by
    simp [Encoder.write, Encoder.writeOp, h]
  rw [Yields, write, run_emit, hw]
  exact ⟨rfl, rfl⟩

/-- Writing a call is appending it with the effect that it brings. -/
theorem write_call_yields {e : Encoder} {op : OpCode} {operand : Operand} {a : UInt8}
    (hflow : op.flow = .call) (h : e.complaint? op operand a.toNat = none)
    (leavesValue : Bool) :
    (write (.call op.mnemonic operand a leavesValue)).Yields e ()
      (e.append op operand a.toNat leavesValue.toNat) := by
  have hw : e.write (.call op.mnemonic operand a leavesValue) =
      .accept () (e.append op operand a.toNat leavesValue.toNat)
        [.emitted ⟨op, operand⟩] := by
    simp [Encoder.write, Encoder.writeOp, hflow, h]
  rw [Yields, write, run_emit, hw]
  exact ⟨rfl, rfl⟩

/-- **An instruction that is in order extends the encoder** by its stack
effect; `ret` alone would end it. -/
theorem write_yields {e : Encoder} (op : OpCode) {operand : Operand} {d k p q : Nat}
    (hret : op ≠ .ret) (hopen : e.ended = false) (hkind : operand.kind = op.operand)
    (hslot : ∀ s, operand = .slot s → e.declares s = true) (hpops : op.pops ≤ d)
    (hk : d - op.pops + op.pushes = k) (hq : max p k = q) (is : List Instruction) :
    (write (.plain op.mnemonic operand)).Yields (e.extended is d p) ()
      (e.extended (is ++ [⟨op, operand⟩]) k q) := by
  have hnone : (e.extended is d p).complaint? op operand op.pops = none :=
    (Encoder.complaint?_eq_none_iff ..).mpr ⟨hopen, hkind, hslot, hpops⟩
  have hw := write_plain_yields hnone
  rwa [Encoder.append_extended hret hopen, hk, hq] at hw

theorem invokeLate_yields {e : Encoder} (hopen : e.ended = false) (c : CallableName) (v : Bool)
    (is : List Instruction) {d p : Nat} (hp : d + 2 ≤ p) :
    (write (.invokeLate c v)).Yields (e.extended is (d + 2) p) ()
      (e.extended (is ++ [⟨.invokeLate, .callable c⟩]) (d + v.toNat) p) := by
  have hnone : (e.extended is (d + 2) p).complaint? .invokeLate (.callable c) 2 = none :=
    (Encoder.complaint?_eq_none_iff ..).mpr ⟨hopen, rfl, by simp, Nat.le_add_left ..⟩
  have hw := write_call_yields (a := 2) (by decide) hnone v
  have hvalue := Bool.toNat_le v
  have hpeak : max p (d + v.toNat) = p := by omega
  rw [Encoder.append_extended (by decide) hopen, show (2 : UInt8).toNat = 2 from rfl, Nat.add_sub_cancel,
    hpeak] at hw
  exact hw

theorem ret_yields {e : Encoder} (hopen : e.ended = false) (is : List Instruction) {d p : Nat} (hp : d ≤ p) :
    (write .ret).Yields (e.extended is d p) ()
      { e.extended (is ++ [⟨.ret, .none⟩]) d p with ended := true } := by
  have hnone : (e.extended is d p).complaint? .ret .none 0 = none :=
    (Encoder.complaint?_eq_none_iff ..).mpr ⟨hopen, rfl, by simp, Nat.zero_le _⟩
  obtain ⟨hr, hs⟩ := write_plain_yields hnone
  refine ⟨hr, hs.trans ?_⟩
  simp [Encoder.append, Encoder.extended, OpCode.pops, OpCode.pushes, OpCode.flow]
  omega

/-- Nothing is written behind a return. -/
theorem write_fails_of_ended {e : Encoder} (op : OpCode) (operand : Operand)
    (hended : e.ended = true) :
    (write (.plain op.mnemonic operand)).Fails e (.afterReturn op) e := by
  have hw : e.write (.plain op.mnemonic operand) = .refuse (.afterReturn op) e := by
    simp [Encoder.write, Encoder.writeOp, Encoder.complaint?, hended]
  rw [Fails, write, run_emit, hw]
  exact ⟨rfl, rfl⟩

/-- A declaration succeeds with the slot of its purpose, whatever was
written before. -/
theorem declare_yields {e : Encoder} (h : e.WellKept) (p : Purpose) (t : LocalType)
    (is : List Instruction) (d peak : Nat) :
    (declareLocal p t).Yields (e.extended is d peak) ((e.declaring p t).slotOf p)
      ((e.declaring p t).extended is d peak) := by
  have hd : ((e.extended is d peak).declareLocal p t).result = .ok ((e.declaring p t).slotOf p) ∧
      ((e.extended is d peak).declareLocal p t).state = (e.declaring p t).extended is d peak := by
    have hslot := h.slotFor?_declaring p t
    cases hs : e.slotFor? p with
    | some s =>
      have hsame : e.declaring p t = e := by
        simp [Encoder.declaring, Encoder.declareLocal_of_slot hs]
      rw [hsame, hs, Option.some.injEq] at hslot
      rw [Encoder.declareLocal_of_slot (e := e.extended is d peak) hs t, hsame, ← hslot]
      exact ⟨rfl, rfl⟩
    | none =>
      have hnew : e.declaring p t = e.withLocal p t := by
        simp [Encoder.declaring, Encoder.declareLocal_of_new hs h.room]
      have hp : e.locals.find? (·.purpose == p) = none := by
        simpa [Encoder.slotFor?, Local.slotFor?] using hs
      rw [Encoder.declareLocal_of_new (e := e.extended is d peak) hs h.room t, hnew]
      simp [Encoder.slotOf, Encoder.slotFor?, Local.slotFor?, List.find?_append, hp]
      rfl
  rw [Yields, declareLocal, run_declare]
  simp only [hd.1, hd.2]
  exact ⟨rfl, rfl⟩

end Script

end TypeSynthesis
