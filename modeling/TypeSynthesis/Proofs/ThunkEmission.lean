/-
TypeSynthesis.Proofs.ThunkEmission — what the body that forwards writes,
and when it cannot.

The body is a long script of requests, each of which could be refused. On
an encoder that was ever fresh only three things go wrong: it is run for
another number of parameters than was planned, the encoder has ended, or
there are more parameters than an instruction can name.

* `Plan.code` — the instructions of the body, as a list.
* `thunk_yields` — on an open encoder and up to 65535 parameters the body
  appends exactly these.
* `thunk_fails_of_ended`, `thunk_fails_of_count` — the other cases, with
  what they leave behind.
* `Plan.Settled` — all cases together; `emission_settled` — they hold.
* `buildBody_thunk` — the code of a method with the body.
-/
import TypeSynthesis.Forward.Forwarder
import TypeSynthesis.Proofs.ScriptRuns

namespace TypeSynthesis.Plan

open Encoder

/-! ## The instructions of the body -/

/-- The instructions that push the receiver; an adapter goes through its
local. -/
def receiverCode (plan : Plan) (adapter : Slot) : List Instruction :=
  match plan.receiver with
  | .adapter shape =>
    [⟨.ldftn, .callable plan.callable⟩, ⟨.newobj, .adapter shape⟩, ⟨.stloc, .slot adapter⟩,
      ⟨.ldloc, .slot adapter⟩]
  | .static | .unbound .. => [⟨.ldnull, .none⟩]

/-- The instructions that store the argument at an index of the array. -/
def packOneCode (boxed : TypeName → Bool) (array : Slot) (index : Nat) (type : TypeName) :
    List Instruction :=
  [⟨.ldloc, .slot array⟩, ⟨.ldcI4, .int32 (.ofNat index)⟩, ⟨.ldarg, .argument (.ofNat (index + 1))⟩] ++
    ((if boxed type then [⟨.box, .type type⟩] else []) ++ [⟨.stelemRef, .none⟩])

/-- The instructions that store the arguments from an index on. -/
def packCode (boxed : TypeName → Bool) (array : Slot) : Nat → List TypeName → List Instruction
  | _, [] => []
  | index, type :: rest => packOneCode boxed array index type ++ packCode boxed array (index + 1) rest

/-- The instructions that make the array. -/
def arrayCode (array : Slot) (count : Nat) : List Instruction :=
  [⟨.ldcI4, .int32 (.ofNat count)⟩, ⟨.newarr, .type packedType⟩, ⟨.stloc, .slot array⟩]

/-- The instructions that pack all arguments into a fresh array. -/
def packingCode (boxed : TypeName → Bool) (array : Slot) (types : List TypeName) :
    List Instruction :=
  arrayCode array types.length ++ packCode boxed array 0 types

/-- The instructions of the body: receiver, packing, dispatch, return. -/
def code (plan : Plan) (boxed : TypeName → Bool) (adapter array : Slot) (types : List TypeName) :
    List Instruction :=
  plan.receiverCode adapter ++ (packingCode boxed array types ++
    [⟨.ldloc, .slot array⟩, ⟨.invokeLate, .callable plan.callable⟩, ⟨.ret, .none⟩])

/-- The encoder with the local that the receiver takes, if it takes one. -/
def binding (plan : Plan) (e : Encoder) : Encoder :=
  match plan.receiver with
  | .adapter shape => e.declaring .adapter (.adapter shape)
  | .static | .unbound .. => e

/-- The encoder with the locals that the body takes. -/
def preparing (plan : Plan) (e : Encoder) : Encoder :=
  (plan.binding e).declaring .arguments (.array packedType)

theorem wellKept_binding {e : Encoder} (h : e.WellKept) (plan : Plan) : (plan.binding e).WellKept := by
  unfold binding
  split
  · exact h.declaring ..
  · exact h
  · exact h

theorem sameBody_binding {e : Encoder} (h : e.WellKept) (plan : Plan) :
    e.SameBody (plan.binding e) := by
  unfold binding
  split
  · exact h.sameBody_declaring ..
  · exact SameBody.refl e
  · exact SameBody.refl e

theorem sameBody_preparing {e : Encoder} (h : e.WellKept) (plan : Plan) :
    e.SameBody (plan.preparing e) :=
  (sameBody_binding h plan).trans ((wellKept_binding h plan).sameBody_declaring ..)

/-- The receiver takes a new local or leaves the encoder as it is. -/
theorem binding_cases {e : Encoder} (h : e.WellKept) (plan : Plan) :
    plan.binding e = e ∨ ∃ shape, plan.receiver = .adapter shape ∧ e.slotFor? .adapter = none ∧
      plan.binding e = e.withLocal .adapter (.adapter shape) := by
  cases hrec : plan.receiver with
  | static => exact Or.inl (by rw [binding, hrec])
  | unbound required owner => exact Or.inl (by rw [binding, hrec])
  | adapter shape =>
    rw [binding, hrec]
    rcases h.declaring_cases .adapter (.adapter shape) with ⟨s, -, hd⟩ | ⟨hnew, hd⟩
    · exact Or.inl hd
    · exact Or.inr ⟨shape, rfl, hnew, hd⟩

/-! ## Success -/

section Success

variable {plan : Plan} {b : TypeName → Bool} {e : Encoder} {array : Slot}

open Script (Yields Fails write_yields declare_yields)

theorem pushReceiver_yields (h : e.WellKept) (hopen : e.ended = false) :
    plan.pushReceiver.Yields e ()
      ((plan.binding e).extended (plan.receiverCode ((plan.binding e).slotOf .adapter))
        (e.depth + 1) (e.depth + 1)) := by
  have hstart := e.extended_nil
  have hnull : (Script.write .ldnull).Yields e ()
      (e.extended [⟨.ldnull, .none⟩] (e.depth + 1) (e.depth + 1)) := by
    have hwrite : (Script.write .ldnull).Yields (e.extended [] e.depth 0) ()
        (e.extended [⟨.ldnull, .none⟩] (e.depth + 1) (e.depth + 1)) :=
      write_yields .ldnull (by decide) hopen rfl (by simp) (Nat.zero_le _) rfl (Nat.zero_max _) []
    rwa [hstart] at hwrite
  cases hrec : plan.receiver with
  | static => simpa only [pushReceiver, receiverCode, binding, hrec] using hnull
  | unbound required owner => simpa only [pushReceiver, receiverCode, binding, hrec] using hnull
  | adapter shape =>
    simp only [pushReceiver, receiverCode, binding, hrec]
    have hopen' : (e.declaring .adapter (.adapter shape)).ended = false := by
      rw [(h.sameBody_declaring ..).ended_eq, hopen]
    have hslot := declares_of_operand (h.declares_slotOf .adapter (.adapter shape))
    have hdeclare := declare_yields h .adapter (.adapter shape) [] e.depth 0
    rw [hstart] at hdeclare
    refine hdeclare.bind ?_
    refine (write_yields .ldftn (by decide) hopen' rfl (by simp) (Nat.zero_le _) rfl
      (Nat.zero_max (e.depth + 1)) []).bind ?_
    refine (write_yields .newobj (by decide) hopen' rfl (by simp) (Nat.le_add_left ..)
      rfl (Nat.max_self (e.depth + 1)) _).bind ?_
    refine (write_yields .stloc (k := e.depth) (q := e.depth + 1) (by decide) hopen' rfl
      hslot (Nat.le_add_left ..) rfl (by omega) _).bind ?_
    exact write_yields .ldloc (by decide) hopen' rfl hslot (Nat.zero_le _) rfl
      (Nat.max_self _) _

theorem packOne_yields (hopen : e.ended = false) (harray : e.declares array = true) {index : Nat}
    (hindex : index + 1 < UInt16.size) (type : TypeName) (is : List Instruction) (d p : Nat) :
    (packOne b array index type).Yields (e.extended is d p) ()
      (e.extended (is ++ packOneCode b array index type) d (max p (d + 3))) := by
  have hslot := declares_of_operand harray
  rw [packOne, if_pos hindex]
  refine (write_yields .ldloc (k := d + 1) (by decide) hopen rfl hslot (Nat.zero_le _) rfl
    rfl is).bind ?_
  refine (write_yields .ldcI4 (k := d + 2) (q := max p (d + 2)) (by decide) hopen rfl
    (by simp) (Nat.zero_le _) rfl (by omega) _).bind ?_
  refine (write_yields .ldarg (k := d + 3) (q := max p (d + 3)) (by decide) hopen rfl
    (by simp) (Nat.zero_le _) rfl (by omega) _).bind ?_
  have hstore (js : List Instruction) : (Script.write .stelemRef).Yields
      (e.extended js (d + 3) (max p (d + 3))) ()
      (e.extended (js ++ [⟨.stelemRef, .none⟩]) d (max p (d + 3))) :=
    write_yields .stelemRef (k := d) (by decide) hopen rfl (by simp)
      (Nat.le_add_left ..) rfl (by omega) js
  cases hbox : b type with
  | false =>
    have hlast := hstore (is ++ [⟨.ldloc, .slot array⟩] ++ [⟨.ldcI4, .int32 (.ofNat index)⟩] ++
      [⟨.ldarg, .argument (.ofNat (index + 1))⟩])
    simpa [packOneCode, hbox] using hlast
  | true =>
    refine (write_yields .box (k := d + 3) (by decide) hopen rfl (by simp)
      (Nat.le_add_left ..) rfl (Nat.max_eq_left (Nat.le_max_right p (d + 3))) _).bind ?_
    have hlast := hstore (is ++ [⟨.ldloc, .slot array⟩] ++ [⟨.ldcI4, .int32 (.ofNat index)⟩] ++
      [⟨.ldarg, .argument (.ofNat (index + 1))⟩] ++ [⟨.box, .type type⟩])
    simpa [packOneCode, hbox] using hlast

/-- Packing from an index on appends the instructions for each argument. -/
theorem packFrom_yields (hopen : e.ended = false) (harray : e.declares array = true)
    (types : List TypeName) (index : Nat) (hroom : index + types.length < UInt16.size)
    (is : List Instruction) (d p : Nat) :
    (packFrom b array index types).Yields (e.extended is d p) ()
      (e.extended (is ++ packCode b array index types) d
        (max p (if types = [] then 0 else d + 3))) := by
  induction types generalizing index is p with
  | nil =>
    have hdone := Yields.done () (e.extended is d p)
    simpa [packFrom, packCode] using hdone
  | cons type rest ih =>
    rw [List.length_cons] at hroom
    have hindex : index + 1 < UInt16.size := by omega
    have hhead := packOne_yields (b := b) hopen harray hindex type is d p
    have htail := ih (index + 1) (by omega) (is ++ packOneCode b array index type) (max p (d + 3))
    have hpeak : max (max p (d + 3)) (if rest = [] then 0 else d + 3) = max p (d + 3) := by
      split <;> omega
    rw [hpeak, List.append_assoc] at htail
    exact hhead.bind htail

/-- The first part of packing: an array of a length, in its local. -/
def makeArray (count : Nat) : Script Slot := do
  let array ← Script.declareLocal .arguments (.array packedType)
  Script.write (.ldcI4 (.ofNat count))
  Script.write (.newarr packedType)
  Script.write (.stloc array)
  return array

theorem pack_eq (b : TypeName → Bool) {types : List TypeName}
    (hlength : types.length ≤ greatestLength) :
    pack b types = (do
      let array ← makeArray types.length
      packFrom b array 0 types
      return array) := by
  rw [pack, if_pos hlength]
  simp only [makeArray, Script.bind_eq, Script.bind_assoc]
  rfl

theorem makeArray_yields (h : e.WellKept) (hopen : e.ended = false) (count : Nat)
    (is : List Instruction) (d p : Nat) :
    (makeArray count).Yields (e.extended is d p)
      ((e.declaring .arguments (.array packedType)).slotOf .arguments)
      ((e.declaring .arguments (.array packedType)).extended
        (is ++ arrayCode ((e.declaring .arguments (.array packedType)).slotOf .arguments) count)
        d (max p (d + 1))) := by
  have hopen' : (e.declaring .arguments (.array packedType)).ended = false := by
    rw [(h.sameBody_declaring ..).ended_eq, hopen]
  have hslot := declares_of_operand (h.declares_slotOf .arguments (.array packedType))
  refine (declare_yields h .arguments (.array packedType) is d p).bind ?_
  refine (write_yields .ldcI4 (k := d + 1) (by decide) hopen' rfl (by simp) (Nat.zero_le _) rfl
    rfl _).bind ?_
  refine (write_yields .newarr (k := d + 1) (q := max p (d + 1)) (by decide) hopen' rfl (by simp)
    (Nat.le_add_left ..) rfl (by omega) _).bind ?_
  refine (write_yields .stloc (k := d) (q := max p (d + 1)) (by decide) hopen' rfl hslot
    (Nat.le_add_left ..) rfl (by omega) _).bind ?_
  simpa [arrayCode] using Yields.done ..

/-- Packing extends the encoder that has a local for the array. -/
theorem pack_yields (h : e.WellKept) (hopen : e.ended = false) {types : List TypeName}
    (hroom : types.length < UInt16.size) (is : List Instruction) (d p : Nat) :
    (pack b types).Yields (e.extended is d p)
      ((e.declaring .arguments (.array packedType)).slotOf .arguments)
      ((e.declaring .arguments (.array packedType)).extended
        (is ++ packingCode b ((e.declaring .arguments (.array packedType)).slotOf .arguments) types)
        d (max p (d + if types = [] then 1 else 3))) := by
  have hopen' : (e.declaring .arguments (.array packedType)).ended = false := by
    rw [(h.sameBody_declaring ..).ended_eq, hopen]
  rw [pack_eq b (Nat.le_trans (Nat.le_of_lt hroom) (by decide))]
  refine (makeArray_yields h hopen types.length is d p).bind ?_
  refine (packFrom_yields hopen' (h.declares_slotOf ..) types 0 (by omega) _ _ _).bind ?_
  have hpeak : max (max p (d + 1)) (if types = [] then 0 else d + 3) =
      max p (d + if types = [] then 1 else 3) := by
    split <;> omega
  rw [hpeak, List.append_assoc]
  exact Yields.done ..

/-- **The body writes its code** on an open encoder, if there are as many
parameters as planned and an instruction can name them all. It leaves the
value of the call, if there is one, and ends the encoder. -/
theorem thunk_yields (h : e.WellKept) (hopen : e.ended = false) {types : List TypeName}
    (hplanned : types.length = plan.parameters.length) (hroom : types.length < UInt16.size) :
    (plan.thunk b types).Yields e ()
      { (plan.preparing e).extended
          (plan.code b ((plan.binding e).slotOf .adapter) ((plan.preparing e).slotOf .arguments) types)
          (e.depth + plan.returnsValue.toNat) (e.depth + if types = [] then 2 else 4) with
        ended := true } := by
  have hbound := wellKept_binding h plan
  have hopen₁ : (plan.binding e).ended = false := by rw [(sameBody_binding h plan).ended_eq, hopen]
  have hopen₂ : (plan.preparing e).ended = false := by rw [(sameBody_preparing h plan).ended_eq, hopen]
  have hslot := declares_of_operand (hbound.declares_slotOf .arguments (.array packedType))
  rw [← preparing] at hslot
  rw [thunk, if_pos hplanned]
  refine (pushReceiver_yields h hopen).bind ?_
  refine (pack_yields hbound hopen₁ hroom _ _ _).bind ?_
  rw [← preparing]
  refine (write_yields .ldloc (k := e.depth + 2) (q := e.depth + if types = [] then 2 else 4)
    (by decide) hopen₂ rfl hslot (Nat.zero_le _) rfl (by split <;> omega) _).bind ?_
  refine (Script.invokeLate_yields hopen₂ plan.callable plan.returnsValue _ (by split <;> omega)).bind ?_
  -- The call takes receiver and array off the stack, so the peak lies behind it.
  have hcode : plan.code b ((plan.binding e).slotOf .adapter)
      ((plan.preparing e).slotOf .arguments) types =
      plan.receiverCode ((plan.binding e).slotOf .adapter) ++
        packingCode b ((plan.preparing e).slotOf .arguments) types ++
        [⟨.ldloc, .slot ((plan.preparing e).slotOf .arguments)⟩] ++
        [⟨.invokeLate, .callable plan.callable⟩] ++ [⟨.ret, .none⟩] := by
    simp [code]
  rw [hcode]
  have hvalue := Bool.toNat_le plan.returnsValue
  exact Script.ret_yields hopen₂ _ (by split <;> omega)

end Success

/-! ## Failure -/

section Failure

variable {plan : Plan} {b : TypeName → Bool} {e : Encoder} {array : Slot}

open Script (Yields Fails write_yields declare_yields)

/-- What is left of an open encoder when the body fails midway: more
instructions, none of which returns, and a peak of no more than four. -/
structure Abandoned (e left : Encoder) : Prop where
  instructions_prefix : e.instructions.toList <+: left.instructions.toList
  open_left : left.ended = false
  maxDepth_le : left.maxDepth ≤ max e.maxDepth (e.depth + 4)

/-- Nothing of the body is written to an encoder that has ended; only the
local for an adapter may be new. -/
theorem thunk_fails_of_ended (hended : e.ended = true) (h : e.WellKept) {types : List TypeName}
    (hplanned : types.length = plan.parameters.length) :
    ∃ op, (plan.thunk b types).Fails e (.afterReturn op) (plan.binding e) := by
  rw [thunk, if_pos hplanned]
  have hnull : (Script.write .ldnull).Fails e (.afterReturn .ldnull) e :=
    Script.write_fails_of_ended .ldnull .none hended
  cases hrec : plan.receiver with
  | static =>
    refine ⟨.ldnull, Fails.bind ?_ _⟩
    simpa only [pushReceiver, binding, hrec] using hnull
  | unbound required owner =>
    refine ⟨.ldnull, Fails.bind ?_ _⟩
    simpa only [pushReceiver, binding, hrec] using hnull
  | adapter shape =>
    refine ⟨.ldftn, Fails.bind ?_ _⟩
    simp only [pushReceiver, binding, hrec]
    have hended' : (e.declaring .adapter (.adapter shape)).ended = true := by
      rw [(h.sameBody_declaring ..).ended_eq, hended]
    have hdeclare := declare_yields h .adapter (.adapter shape) [] e.depth 0
    have hsame : (e.declaring .adapter (.adapter shape)).extended [] e.depth 0 =
        e.declaring .adapter (.adapter shape) := by
      rw [← (h.sameBody_declaring .adapter (.adapter shape)).depth_eq]
      exact extended_nil _
    rw [e.extended_nil, hsame] at hdeclare
    exact hdeclare.bind_fails (Fails.bind (Script.write_fails_of_ended .ldftn _ hended') _)

/-- Packing stops at the first argument that no instruction can name. -/
theorem packFrom_fails (hopen : e.ended = false) (harray : e.declares array = true)
    (types : List TypeName) {index : Nat} (hindex : index < UInt16.size)
    (hcount : UInt16.size ≤ index + types.length) (is : List Instruction) (d p : Nat) :
    ∃ js q, (packFrom b array index types).Fails (e.extended is d p)
      (.argumentOutOfRange UInt16.size) (e.extended (is ++ js) d q) ∧ q ≤ max p (d + 3) := by
  induction types generalizing index is p with
  | nil =>
    rw [List.length_nil] at hcount
    omega
  | cons type rest ih =>
    rw [List.length_cons] at hcount
    by_cases hnext : index + 1 < UInt16.size
    · obtain ⟨js, q, hfails, hq⟩ := ih hnext (by omega)
        (is ++ packOneCode b array index type) (max p (d + 3))
      have hhead := packOne_yields (b := b) hopen harray hnext type is d p
      rw [List.append_assoc] at hfails
      exact ⟨_, q, hhead.bind_fails hfails, by omega⟩
    · -- Nothing of this argument is written: its number is checked before the first request.
      have hlast : index + 1 = UInt16.size := by omega
      refine ⟨[], max p 0, Fails.bind ?_ _, by omega⟩
      rw [packOne, if_neg hnext, hlast, List.append_nil, Nat.max_zero]
      exact Fails.fail ..

/-- What packing says to more parameters than an instruction can name. -/
def countFault (types : List TypeName) : Fault :=
  if types.length ≤ greatestLength then .argumentOutOfRange UInt16.size
  else .tooManyToPack types.length

theorem pack_fails (h : e.WellKept) (hopen : e.ended = false) {types : List TypeName}
    (hcount : UInt16.size ≤ types.length) (is : List Instruction) (d p : Nat) :
    ∃ (other : Encoder) (js : List Instruction) (q : Nat), e.SameBody other ∧
      (pack b types).Fails (e.extended is d p) (countFault types) (other.extended (is ++ js) d q) ∧
      q ≤ max p (d + 3) := by
  rw [countFault]
  by_cases hlength : types.length ≤ greatestLength
  · rw [if_pos hlength, pack_eq b hlength]
    have hsame := h.sameBody_declaring .arguments (.array packedType)
    have hmake := makeArray_yields h hopen types.length is d p
    obtain ⟨js, q, hfails, hq⟩ := packFrom_fails (b := b) (hsame.ended_eq.trans hopen)
      (h.declares_slotOf ..) types (show 0 < UInt16.size by decide) (by omega)
      (is ++ arrayCode ((e.declaring .arguments (.array packedType)).slotOf .arguments)
        types.length) d (max p (d + 1))
    rw [List.append_assoc] at hfails
    exact ⟨_, _, q, hsame, hmake.bind_fails (hfails.bind _), by omega⟩
  · rw [if_neg hlength, pack, if_neg hlength]
    refine ⟨e, [], p, SameBody.refl e, ?_, Nat.le_max_left ..⟩
    rw [List.append_nil]
    exact Fails.fail ..

/-- With more parameters than an instruction can name the body is abandoned. -/
theorem thunk_fails_of_count (h : e.WellKept) (hopen : e.ended = false) {types : List TypeName}
    (hplanned : types.length = plan.parameters.length) (hcount : UInt16.size ≤ types.length) :
    ∃ left, (plan.thunk b types).Fails e (countFault types) left ∧ Abandoned e left := by
  have hbound := sameBody_binding h plan
  obtain ⟨other, js, q, hother, hfails, hq⟩ :=
    pack_fails (b := b) (wellKept_binding h plan) (hbound.ended_eq.trans hopen) hcount
      (plan.receiverCode ((plan.binding e).slotOf .adapter)) (e.depth + 1) (e.depth + 1)
  have hsame := hbound.trans hother
  rw [thunk, if_pos hplanned]
  refine ⟨_, (pushReceiver_yields h hopen).bind_fails (hfails.bind _), ?_, ?_, ?_⟩
  · rw [toList_instructions_extended, hsame.instructions_eq]
    exact List.prefix_append ..
  · rw [ended_extended, hsame.ended_eq, hopen]
  · rw [maxDepth_extended, hsame.maxDepth_eq]
    omega

theorem kind_countFault (types : List TypeName) : (countFault types).kind = .malformed := by
  unfold countFault
  split <;> rfl

theorem thunk_fails_of_planned (b : TypeName → Bool) (e : Encoder) {types : List TypeName}
    (hplanned : types.length ≠ plan.parameters.length) :
    (plan.thunk b types).Fails e
      (.plannedCount plan.callable plan.parameters.length types.length) e := by
  rw [thunk, if_neg hplanned]
  exact Fails.fail ..

end Failure

/-! ## All together -/

section Settled

variable {plan : Plan} {b : TypeName → Bool} {e : Encoder} {types : List TypeName}

/-- What the emission of a plan for some parameter types gives on an
encoder: it succeeds exactly when there are as many parameters as planned,
the encoder is open, and an instruction can name them all. -/
structure Settled (plan : Plan) (types : List TypeName) (e : Encoder) (o : Outcome Encoder Unit) :
    Prop where
  ok_iff : o.result = .ok () ↔
    types.length = plan.parameters.length ∧ e.ended = false ∧ types.length ≤ 65535
  /-- An argument fault or a malformed body, and never an undeclared local. -/
  fault : ∀ f, o.result = .error f →
    (types.length ≠ plan.parameters.length ∧ f.kind = .argument ∨
      types.length = plan.parameters.length ∧ f.kind = .malformed) ∧
    ∀ s op, f ≠ .undeclaredLocal s op
  of_planned : types.length ≠ plan.parameters.length →
    o.result = .error (.plannedCount plan.callable plan.parameters.length types.length) ∧ o.state = e
  of_ended : types.length = plan.parameters.length → e.ended = true →
    (∃ op, o.result = .error (.afterReturn op)) ∧
    (o.state = e ∨ ∃ shape, plan.receiver = .adapter shape ∧ e.slotFor? .adapter = none ∧
      o.state = e.withLocal .adapter (.adapter shape))
  of_count : types.length = plan.parameters.length → e.ended = false → 65535 < types.length →
    o.result = .error (countFault types) ∧
    e.instructions.toList <+: o.state.instructions.toList ∧ o.state.ended = false ∧
    o.state.finalize = .error .noReturn
  /-- The depth never rises by more than four. -/
  maxDepth_le : o.state.maxDepth ≤ max e.maxDepth (e.depth + 4)

theorem settled_of_planned (h : types.length ≠ plan.parameters.length) :
    Settled plan types e ((plan.thunk b types).run e) := by
  obtain ⟨hresult, hstate⟩ := thunk_fails_of_planned b e h
  constructor
  case ok_iff => simp [hresult, h]
  case fault =>
    intro f hf
    rw [hresult, Except.error.injEq] at hf
    subst hf
    exact ⟨Or.inl ⟨h, rfl⟩, by simp⟩
  case of_planned => exact fun _ => ⟨hresult, hstate⟩
  case of_ended => exact fun hp => absurd hp h
  case of_count => exact fun hp => absurd hp h
  case maxDepth_le => rw [hstate]; exact Nat.le_max_left ..

theorem settled_of_ended (hkept : e.WellKept) (h : types.length = plan.parameters.length)
    (hended : e.ended = true) : Settled plan types e ((plan.thunk b types).run e) := by
  obtain ⟨op, hresult, hstate⟩ := thunk_fails_of_ended (b := b) hended hkept h
  constructor
  case ok_iff => simp [hresult, hended]
  case fault =>
    intro f hf
    rw [hresult, Except.error.injEq] at hf
    subst hf
    exact ⟨Or.inr ⟨h, rfl⟩, by simp⟩
  case of_planned => exact fun hp => absurd h hp
  case of_ended =>
    intro _ _
    rw [hstate]
    exact ⟨⟨op, hresult⟩, binding_cases hkept plan⟩
  case of_count => exact fun _ hopen => by simp [hended] at hopen
  case maxDepth_le => rw [hstate, (sameBody_binding hkept plan).maxDepth_eq]; exact Nat.le_max_left ..

theorem settled_of_count (hkept : e.WellKept) (h : types.length = plan.parameters.length)
    (hopen : e.ended = false) (hcount : UInt16.size ≤ types.length) :
    Settled plan types e ((plan.thunk b types).run e) := by
  obtain ⟨left, ⟨hresult, rfl⟩, hleft⟩ := thunk_fails_of_count (b := b) hkept hopen h hcount
  have hover : ¬types.length ≤ 65535 := Nat.not_le.mpr hcount
  have hkind := kind_countFault types
  constructor
  case ok_iff => simp [hresult, hover]
  case fault =>
    intro f hf
    rw [hresult, Except.error.injEq] at hf
    subst hf
    refine ⟨Or.inr ⟨h, hkind⟩, fun s op => ?_⟩
    unfold countFault
    split <;> simp
  case of_planned => exact fun hp => absurd h hp
  case of_ended => exact fun _ hended => by simp [hopen] at hended
  case of_count =>
    intro _ _ _
    refine ⟨hresult, hleft.instructions_prefix, hleft.open_left, ?_⟩
    simp [finalize, hleft.open_left]
  case maxDepth_le => exact hleft.maxDepth_le

theorem settled_of_yields (hkept : e.WellKept) (h : types.length = plan.parameters.length)
    (hopen : e.ended = false) (hroom : types.length < UInt16.size) :
    Settled plan types e ((plan.thunk b types).run e) := by
  obtain ⟨hresult, hstate⟩ := thunk_yields (b := b) hkept hopen h hroom
  have hle : types.length ≤ 65535 := Nat.le_of_lt_succ hroom
  constructor
  case ok_iff => exact ⟨fun _ => ⟨h, hopen, hle⟩, fun _ => hresult⟩
  case fault => exact fun f hf => by simp [hresult] at hf
  case of_planned => exact fun hp => absurd h hp
  case of_ended => exact fun _ hended => by simp [hopen] at hended
  case of_count => exact fun _ _ hcount => absurd hle (Nat.not_le.mpr hcount)
  case maxDepth_le =>
    rw [hstate]
    show max (plan.preparing e).maxDepth _ ≤ _
    rw [(sameBody_preparing hkept plan).maxDepth_eq]
    split <;> omega

/-- Whatever is given, emission is settled. -/
theorem settled_thunk (hkept : e.WellKept) (types : List TypeName) :
    Settled plan types e ((plan.thunk b types).run e) := by
  by_cases hplanned : types.length = plan.parameters.length
  · cases hended : e.ended with
    | true => exact settled_of_ended hkept hplanned hended
    | false =>
      rcases Nat.lt_or_ge types.length UInt16.size with hroom | hcount
      · exact settled_of_yields hkept hplanned hended hroom
      · exact settled_of_count hkept hplanned hended hcount
  · exact settled_of_planned hplanned

end Settled

/-! ## Methods with the body -/

section Build

variable {plan : Plan} {b : TypeName → Bool} {m : Method}

/-- The code of a method whose body forwards. -/
def built (plan : Plan) (b : TypeName → Bool) (types : List TypeName) : Code where
  instructions := plan.code b ((plan.binding fresh).slotOf .adapter)
    ((plan.preparing fresh).slotOf .arguments) types
  locals := (plan.preparing fresh).locals
  maxStack := if types = [] then 2 else 4

/-- A method that fits its plan is built, and this is its code. -/
theorem buildBody_thunk (hbody : m.body = some (plan.thunk b))
    (hplanned : m.parameters.length = plan.parameters.length)
    (hroom : m.parameters.length < UInt16.size) (hreturns : m.returns.count = plan.returnsValue.toNat) :
    m.buildBody.result = .ok (plan.built b m.parameterTypes) := by
  have hlength : m.parameterTypes.length = m.parameters.length := List.length_map ..
  obtain ⟨hresult, hstate⟩ := thunk_yields (b := b) wellKept_fresh rfl (hlength.trans hplanned)
    (hlength ▸ hroom)
  have hemit : m.emitBody fresh = (plan.thunk b m.parameterTypes).run fresh := by
    rw [Method.emitBody, hbody]
  rw [Method.buildBody_eq_ok_iff, hemit, hstate]
  refine ⟨hresult, ?_, ?_⟩
  · simp [hreturns]
  · have hinstructions := (sameBody_preparing wellKept_fresh plan).instructions_eq
    have hmax := (sameBody_preparing wellKept_fresh plan).maxDepth_eq
    simp [finalize, built, extended, hinstructions, hmax]

/-- A method is built exactly when it fits its plan and an instruction can
name all of its parameters. -/
theorem buildBody_thunk_iff (hbody : m.body = some (plan.thunk b)) :
    (∃ code, m.buildBody.result = .ok code) ↔
      m.parameters.length = plan.parameters.length ∧ m.parameters.length ≤ 65535 ∧
        m.returns.count = plan.returnsValue.toNat := by
  have hlength : m.parameterTypes.length = m.parameters.length := List.length_map ..
  have hemit : m.emitBody fresh = (plan.thunk b m.parameterTypes).run fresh := by
    rw [Method.emitBody, hbody]
  constructor
  · rintro ⟨code, hcode⟩
    rw [Method.buildBody_eq_ok_iff, hemit] at hcode
    obtain ⟨hresult, hdepth, -⟩ := hcode
    obtain ⟨hplanned, -, hroom⟩ := (settled_thunk wellKept_fresh m.parameterTypes).ok_iff.mp hresult
    obtain ⟨-, hstate⟩ := thunk_yields (b := b) wellKept_fresh rfl hplanned (Nat.lt_succ_of_le hroom)
    rw [hstate] at hdepth
    exact ⟨hlength ▸ hplanned, hlength ▸ hroom, by simpa using hdepth.symm⟩
  · rintro ⟨hplanned, hroom, hreturns⟩
    exact ⟨_, buildBody_thunk hbody hplanned (Nat.lt_succ_of_le hroom) hreturns⟩

end Build

end TypeSynthesis.Plan

namespace TypeSynthesis.Forwarder

open Encoder

/-- A method to which a forwarding body was attached fits the plan. -/
theorem forward_fits {f : Forwarder} {m : Method} {c : CallableName}
    (h : (f.forward m c).result = .ok ()) :
    ∃ plan, (f.plan m c).result = .ok plan ∧ (f.forward m c).state = { m with body := some (f.thunk plan) } ∧
      plan.callable = c ∧ plan.parameters = m.parameterTypes ∧
      m.returns.count = plan.returnsValue.toNat := by
  obtain ⟨plan, warned, hplan, hallow⟩ := (result_forward_eq_ok_iff f m c).mp h
  obtain ⟨target, -, hvoid, -, heq⟩ := (Plan.make_eq_ok_iff ..).mp hplan
  refine ⟨plan, ?_, ?_, ?_, ?_, ?_⟩
  · simp [Forwarder.plan, hplan]
  · simp [forward, hplan, hallow]
  · rw [heq]
  · rw [heq]
  · rw [heq, ReturnKind.count, hvoid, Callable.returnsValue]
    cases target.returns.isVoid <;> rfl

/-- **Emission is settled.** On an encoder that was ever fresh the body of
any plan, made or not, for any parameter types and whatever is boxed,
succeeds or fails as `Settled` says; so does the emission of the plan for
its own parameters. A method with such a body is built exactly when it fits
the plan and has no more than 65535 parameters, and one to which `forward`
attached the body always fits. -/
theorem emission_settled (plan : Plan) (b : TypeName → Bool) (types : List TypeName)
    (qs : List Request) :
    plan.Settled types (fresh.afterAll qs) ((plan.thunk b types).run (fresh.afterAll qs)) ∧
    (∀ f : Forwarder,
      plan.Settled plan.parameters (fresh.afterAll qs) (f.emit plan (fresh.afterAll qs))) ∧
    (∀ m : Method, m.body = some (plan.thunk b) →
      ((∃ code, m.buildBody.result = .ok code) ↔
        m.parameters.length = plan.parameters.length ∧ m.parameters.length ≤ 65535 ∧
          m.returns.count = plan.returnsValue.toNat)) ∧
    ∀ (f : Forwarder) (m : Method) (c : CallableName), (f.forward m c).result = .ok () →
      ((∃ code, (f.forward m c).state.buildBody.result = .ok code) ↔ m.parameters.length ≤ 65535) := by
  have hkept := wellKept_afterAll qs
  refine ⟨Plan.settled_thunk hkept types, fun f => Plan.settled_thunk hkept plan.parameters,
    fun m hbody => Plan.buildBody_thunk_iff hbody, fun f m c h => ?_⟩
  obtain ⟨made, -, hstate, -, hparameters, hreturns⟩ := forward_fits h
  rw [hstate, Plan.buildBody_thunk_iff rfl, hparameters]
  simp [Method.parameterTypes, hreturns]

end TypeSynthesis.Forwarder
