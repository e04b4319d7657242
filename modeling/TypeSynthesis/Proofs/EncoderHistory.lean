/-
TypeSynthesis.Proofs.EncoderHistory — what an encoder has accepted, kept
beside it.

An encoder keeps its instructions and two numbers. It does not keep the
stack effect with which each instruction was accepted, nor the depth it
had at the time, and both matter to everything that is said about whole
runs. `Encoder.history` keeps them: one `Entry` for each accepted
instruction, in order, computed from the requests.

* `after_cases` — the three things that a request can do to an encoder:
  nothing, one accepted instruction, one new local. Every invariant of
  the encoder is a case analysis over these three.
* `toList_instructions_afterAll`, `depth_afterAll`,
  `isGreatest_maxDepth_afterAll` — instructions, depth and greatest depth
  are read off the history.
* `befores_history` — the depths recorded in a history are those that the
  entries before them add up to.
-/
import Mathlib.Algebra.Ring.Int.Defs
import Mathlib.Data.List.Induction
import Mathlib.Order.Bounds.Basic
import TypeSynthesis.Encoder

namespace TypeSynthesis

/-! ## Entries -/

/-- An accepted instruction: the number of values it pops and pushes, and
the depth of the stack just before it. -/
structure Entry where
  instruction : Instruction
  pops : Nat
  pushes : Nat
  before : Nat
  deriving DecidableEq, Repr

/-- What the instruction adds to the depth of the stack. -/
def Entry.change (w : Entry) : Int := w.pushes - w.pops

/-- The sum of all pushes less the sum of all pops. -/
def Entry.net (ws : List Entry) : Int := (ws.map Entry.change).sum

/-- The sums over the first so many entries, none and all included. -/
def Entry.heights (ws : List Entry) : Set Int := {d | ∃ front, front <+: ws ∧ d = Entry.net front}

/-- The entry of an emission that is accepted at a depth: a call brings its
own stack effect, any other instruction has that of its opcode. -/
def Emission.entryAt? (before : Nat) : Emission → Option Entry
  | .plain mnemonic operand =>
    (OpCode.ofMnemonic? mnemonic).map fun op => ⟨⟨op, operand⟩, op.pops, op.pushes, before⟩
  | .call mnemonic operand arguments leavesValue =>
    (OpCode.ofMnemonic? mnemonic).map fun op =>
      ⟨⟨op, operand⟩, arguments.toNat, leavesValue.toNat, before⟩

namespace Entry

@[simp] theorem net_nil : net [] = 0 := rfl

@[simp] theorem net_append (ws vs : List Entry) : net (ws ++ vs) = net ws + net vs := by
  simp [net]

@[simp] theorem net_cons (w : Entry) (ws : List Entry) : net (w :: ws) = w.change + net ws := by
  simp [net]

theorem heights_nil : heights [] = {0} := by
  ext d; simp [heights]

/-- One entry more makes one sum more. -/
theorem heights_concat (ws : List Entry) (w : Entry) :
    heights (ws ++ [w]) = insert (net (ws ++ [w])) (heights ws) := by
  ext d
  simp only [heights, Set.mem_ofPred_eq, Set.mem_insert_iff, List.prefix_concat_iff]
  constructor
  · rintro ⟨front, rfl | hf, rfl⟩
    · exact Or.inl rfl
    · exact Or.inr ⟨front, hf, rfl⟩
  · rintro (rfl | ⟨front, hf, rfl⟩)
    · exact ⟨ws ++ [w], Or.inl rfl, rfl⟩
    · exact ⟨front, Or.inr hf, rfl⟩

end Entry

namespace Encoder

/-! ## Histories -/

/-- The entry that a request adds, if it is for an instruction and is
granted. -/
def entryOf? (e : Encoder) : Request → Option Entry
  | .write m => if (e.write m).accepted then m.entryAt? e.depth else none
  | .declareLocal .. => none

/-- The entries that requests add one after another. -/
def history (e : Encoder) : List Request → List Entry
  | [] => []
  | q :: rest => (e.entryOf? q).toList ++ (e.after q).history rest

/-- The encoder with one more local, in the next slot. -/
def withLocal (e : Encoder) (purpose : Purpose) (type : LocalType) : Encoder :=
  { e with locals := e.locals ++ [⟨⟨.ofNat e.locals.length⟩, purpose, type⟩] }

/-- The encoder with one more instruction, of the stack effect in its entry. -/
def withEntry (e : Encoder) (w : Entry) : Encoder :=
  e.append w.instruction.opcode w.instruction.operand w.pops w.pushes

@[simp] theorem instructions_fresh : fresh.instructions = #[] := rfl

@[simp] theorem locals_fresh : fresh.locals = [] := rfl

@[simp] theorem depth_fresh : fresh.depth = 0 := rfl

@[simp] theorem maxDepth_fresh : fresh.maxDepth = 0 := rfl

@[simp] theorem ended_fresh : fresh.ended = false := rfl

@[simp] theorem instructions_withLocal (e : Encoder) (p : Purpose) (t : LocalType) :
    (e.withLocal p t).instructions = e.instructions := rfl

@[simp] theorem locals_withLocal (e : Encoder) (p : Purpose) (t : LocalType) :
    (e.withLocal p t).locals = e.locals ++ [⟨⟨.ofNat e.locals.length⟩, p, t⟩] := rfl

@[simp] theorem depth_withLocal (e : Encoder) (p : Purpose) (t : LocalType) :
    (e.withLocal p t).depth = e.depth := rfl

@[simp] theorem maxDepth_withLocal (e : Encoder) (p : Purpose) (t : LocalType) :
    (e.withLocal p t).maxDepth = e.maxDepth := rfl

@[simp] theorem ended_withLocal (e : Encoder) (p : Purpose) (t : LocalType) :
    (e.withLocal p t).ended = e.ended := rfl

@[simp] theorem instructions_withEntry (e : Encoder) (w : Entry) :
    (e.withEntry w).instructions.toList = e.instructions.toList ++ [w.instruction] := by
  simp [withEntry, append]

@[simp] theorem locals_withEntry (e : Encoder) (w : Entry) : (e.withEntry w).locals = e.locals := rfl

theorem ended_withEntry_iff (e : Encoder) (w : Entry) :
    (e.withEntry w).ended = true ↔ w.instruction.opcode = .ret := by
  rw [← OpCode.flow_eq_returns_iff]
  simp [withEntry, append]

/-- Nothing is wrong with an instruction, and its entry records the depth. -/
structure Admits (e : Encoder) (w : Entry) : Prop where
  before_eq : w.before = e.depth
  notEnded : e.ended = false
  kind_eq : w.instruction.operand.kind = w.instruction.opcode.operand
  declared : ∀ s, w.instruction.operand = .slot s → e.declares s = true
  pops_le : w.pops ≤ e.depth

@[simp] theorem afterAll_nil (e : Encoder) : e.afterAll [] = e := rfl

@[simp] theorem afterAll_cons (e : Encoder) (q : Request) (qs : List Request) :
    e.afterAll (q :: qs) = (e.after q).afterAll qs := rfl

theorem afterAll_append (e : Encoder) (qs rs : List Request) :
    e.afterAll (qs ++ rs) = (e.afterAll qs).afterAll rs :=
  List.foldl_append

theorem history_append (e : Encoder) (qs rs : List Request) :
    e.history (qs ++ rs) = e.history qs ++ (e.afterAll qs).history rs := by
  induction qs generalizing e with
  | nil => rfl
  | cons q rest ih => simp [history, ih]

/-! ## One request -/

/-- Nothing is wrong with an instruction exactly when the body is open, the
operand is of the right kind, a slot is declared, and the stack holds the
values to be popped. -/
theorem complaint?_eq_none_iff (e : Encoder) (op : OpCode) (operand : Operand) (pops : Nat) :
    e.complaint? op operand pops = none ↔
      e.ended = false ∧ operand.kind = op.operand ∧
        (∀ s, operand = .slot s → e.declares s = true) ∧ pops ≤ e.depth := by
  have hslot : e.undeclared? operand = none ↔ ∀ s, operand = .slot s → e.declares s = true := by
    cases operand <;> simp [undeclared?]
  rw [← hslot]
  unfold complaint?
  by_cases he : e.ended = true
  · simp [he]
  by_cases hk : operand.kind = op.operand
  · cases hu : e.undeclared? operand <;> simp [he, hk]
  · simp [he, hk]

/-- An instruction is accepted exactly when nothing is wrong with it; then it
is appended with its stack effect. -/
theorem writeOp_of_accepted {e : Encoder} {op : OpCode} {operand : Operand} {pops pushes : Nat}
    (h : (e.writeOp op operand pops pushes).accepted = true) :
    e.Admits ⟨⟨op, operand⟩, pops, pushes, e.depth⟩ ∧
      e.writeOp op operand pops pushes =
        .accept () (e.append op operand pops pushes) [.emitted ⟨op, operand⟩] := by
  unfold writeOp at h ⊢
  cases hc : e.complaint? op operand pops with
  | none =>
    obtain ⟨he, hk, hs, hp⟩ := (complaint?_eq_none_iff ..).mp hc
    exact ⟨⟨rfl, he, hk, hs, hp⟩, rfl⟩
  | some fault => simp [hc, Outcome.accepted, Except.isOk, Except.toBool] at h

/-- Where a request leaves an entry, its instruction was in order and is
appended. Both sorts of emission come down to `writeOp` with the effect of
the entry. -/
theorem write_of_entryOf? {e : Encoder} {m : Emission} {w : Entry}
    (h : e.entryOf? (.write m) = some w) :
    e.Admits w ∧ e.write m = .accept () (e.withEntry w) [.emitted w.instruction] := by
  simp only [entryOf?] at h
  split at h
  case isFalse => cases h
  case isTrue ha =>
    cases m with
    | plain mnemonic operand =>
      obtain ⟨op, hop, rfl⟩ := Option.map_eq_some_iff.mp h
      simp only [write, hop] at ha ⊢
      exact writeOp_of_accepted ha
    | call mnemonic operand arguments leavesValue =>
      obtain ⟨op, hop, rfl⟩ := Option.map_eq_some_iff.mp h
      simp only [write, hop] at ha ⊢
      split at ha
      case isTrue hf =>
        rw [if_pos hf]
        exact writeOp_of_accepted ha
      case isFalse hf => simp [Outcome.accepted, Except.isOk, Except.toBool] at ha

/-- Only an instruction that is refused leaves no entry, and then it leaves
nothing else either. -/
theorem after_write_of_entryOf?_eq_none {e : Encoder} {m : Emission}
    (h : e.entryOf? (.write m) = none) : e.after (.write m) = e := by
  have hrefused : ∃ fault, (e.write m).result = .error fault := by
    cases hr : (e.write m).result with
    | error fault => exact ⟨fault, rfl⟩
    | ok u =>
      exfalso
      simp only [entryOf?, Outcome.accepted, hr, Except.isOk, Except.toBool, if_true] at h
      cases m <;>
        simp only [Emission.entryAt?, Option.map_eq_none_iff] at h <;>
        simp [write, h] at hr
  obtain ⟨fault, hf⟩ := hrefused
  exact state_write_of_error hf

/-- A purpose that has a slot keeps it. -/
theorem declareLocal_of_slot {e : Encoder} {p : Purpose} {s : Slot} (h : e.slotFor? p = some s)
    (t : LocalType) : e.declareLocal p t = .accept s e [] := by
  simp [declareLocal, h]

/-- A new purpose gets the next slot, while there is one. -/
theorem declareLocal_of_new {e : Encoder} {p : Purpose} (h : e.slotFor? p = none)
    (hroom : e.locals.length < UInt16.size) (t : LocalType) :
    e.declareLocal p t =
      .accept ⟨.ofNat e.locals.length⟩ (e.withLocal p t)
        [.localDeclared ⟨.ofNat e.locals.length⟩ p t] := by
  simp [declareLocal, h, hroom, withLocal]

/-- What a request can do: nothing, append one instruction that is in order,
or declare one local. -/
theorem after_cases (e : Encoder) (q : Request) :
    (e.after q = e ∧ e.entryOf? q = none) ∨
    (∃ w, e.entryOf? q = some w ∧ e.Admits w ∧ e.after q = e.withEntry w) ∨
    (∃ p t, q = .declareLocal p t ∧ e.entryOf? q = none ∧ e.slotFor? p = none ∧
      e.locals.length < UInt16.size ∧ e.after q = e.withLocal p t) := by
  cases q with
  | write m =>
    cases hw : e.entryOf? (.write m) with
    | none => exact Or.inl ⟨after_write_of_entryOf?_eq_none hw, rfl⟩
    | some w =>
      obtain ⟨hadm, hs⟩ := write_of_entryOf? hw
      exact Or.inr (Or.inl ⟨w, rfl, hadm, by simp [after, answer, hs]⟩)
  | declareLocal p t =>
    cases hs : e.slotFor? p with
    | some s => exact Or.inl ⟨by simp [after, answer, declareLocal_of_slot hs], rfl⟩
    | none =>
      by_cases hroom : e.locals.length < UInt16.size
      · exact Or.inr (Or.inr ⟨p, t, rfl, rfl, hs, hroom, by
          simp [after, answer, declareLocal_of_new hs hroom]⟩)
      · exact Or.inl ⟨by simp [after, answer, declareLocal, hs, hroom], rfl⟩

/-- Nothing is added to a body that has ended. -/
theorem history_of_ended {e : Encoder} (h : e.ended = true) (qs : List Request) :
    e.history qs = [] := by
  induction qs generalizing e with
  | nil => rfl
  | cons q rest ih =>
    rcases after_cases e q with ⟨ha, hq⟩ | ⟨w, -, hadm, -⟩ | ⟨p, t, -, hq, -, -, ha⟩
    · simp [history, hq, ha, ih h]
    · simp [hadm.notEnded] at h
    · simp [history, hq, ha, ih (e := e.withLocal p t) h]

/-! ## Reading an encoder off its history -/

/-- The instructions are those of the entries, in order. -/
theorem toList_instructions_afterAll (e : Encoder) (qs : List Request) :
    (e.afterAll qs).instructions.toList =
      e.instructions.toList ++ (e.history qs).map (·.instruction) := by
  induction qs generalizing e with
  | nil => simp [history]
  | cons q rest ih =>
    rw [afterAll_cons, ih]
    rcases after_cases e q with ⟨ha, hq⟩ | ⟨w, hq, -, ha⟩ | ⟨p, t, -, hq, -, -, ha⟩
    · simp [history, ha, hq]
    · simp [history, ha, hq]
    · simp [history, ha, hq]

/-- An accepted instruction changes the depth by its pushes less its pops. -/
theorem depth_withEntry {e : Encoder} {w : Entry} (h : e.Admits w) :
    ((e.withEntry w).depth : Int) = e.depth + w.change := by
  have hpops := h.pops_le
  simp only [withEntry, append, Entry.change]
  omega

/-- The depth is the sum of pushes less pops since the start. -/
theorem depth_afterAll (e : Encoder) (qs : List Request) :
    ((e.afterAll qs).depth : Int) = e.depth + Entry.net (e.history qs) := by
  induction qs generalizing e with
  | nil => simp [history]
  | cons q rest ih =>
    rw [afterAll_cons, ih]
    rcases after_cases e q with ⟨ha, hq⟩ | ⟨w, hq, hadm, ha⟩ | ⟨p, t, -, hq, -, -, ha⟩
    · simp [history, ha, hq]
    · rw [ha, depth_withEntry hadm]
      simp [history, hq, ha, Int.add_assoc]
    · simp [history, ha, hq]

/-- The greatest depth of a fresh encoder after some requests is the greatest
of the sums over the first so many entries. -/
theorem isGreatest_maxDepth_afterAll (qs : List Request) :
    IsGreatest (Entry.heights (fresh.history qs)) ((fresh.afterAll qs).maxDepth : Int) := by
  induction qs using List.reverseRecOn with
  | nil => simp [history, Entry.heights_nil]
  | append_singleton qs q ih =>
    rw [afterAll_append, history_append]
    rcases after_cases (fresh.afterAll qs) q with
      ⟨ha, hq⟩ | ⟨w, hq, hadm, ha⟩ | ⟨p, t, -, hq, -, -, ha⟩
    · simpa [history, hq, ha] using ih
    · have hnet : ((fresh.afterAll qs).withEntry w).depth = Entry.net (fresh.history qs ++ [w]) := by
        rw [depth_withEntry hadm, depth_afterAll]; simp
      have hmax : (((fresh.afterAll qs).withEntry w).maxDepth : Int) =
          max (Entry.net (fresh.history qs ++ [w])) (fresh.afterAll qs).maxDepth := by
        rw [← hnet]; simp only [withEntry, append]; omega
      simp only [history, hq, ha, afterAll_cons, afterAll_nil, Option.toList_some, List.append_nil]
      rw [hmax, Entry.heights_concat]
      exact ih.insert _
    · simpa [history, hq, ha] using ih

/-- The depth recorded in an entry is the sum over the entries before it. -/
theorem befores_history (e : Encoder) (qs : List Request) (front back : List Entry) (w : Entry)
    (h : e.history qs = front ++ w :: back) : (w.before : Int) = e.depth + Entry.net front := by
  induction qs generalizing e front with
  | nil => simp [history] at h
  | cons q rest ih =>
    rcases after_cases e q with ⟨ha, hq⟩ | ⟨v, hq, hadm, ha⟩ | ⟨p, t, -, hq, -, -, ha⟩
    · simp only [history, hq, ha, Option.toList_none, List.nil_append] at h
      exact ih e front h
    · simp only [history, hq, Option.toList_some, List.singleton_append] at h
      cases front with
      | nil =>
        obtain ⟨rfl, -⟩ := List.cons.inj h
        simp [hadm.before_eq]
      | cons u front =>
        obtain ⟨rfl, htail⟩ := List.cons.inj h
        rw [ih (e.after q) front htail, ha, depth_withEntry hadm]
        rw [Entry.net_cons, Int.add_assoc]
    · simp only [history, hq, ha, Option.toList_none, List.nil_append] at h
      simpa using ih _ front h

end Encoder

end TypeSynthesis
