/-
TypeSynthesis.Proofs.ThunkShape — the exact shape of an emitted body.

A body that forwards may be written where other code stands already: on an
encoder with values on its stack, with a local for one purpose or for both,
of whatever types. What it appends is the same everywhere but for the slots,
and these are the ones that the encoder has, or the next ones that are free.

* `packCode_eq` — the loop over the parameters, as one block for each.
* `operands_exact` — no number is cut off on its way into an instruction.
* `Plan.wanted`, `Plan.missing` — the locals that a body asks for, and those
  that an encoder lacks; `locals_preparing` — these are appended.
* `Plan.Emitted` — everything that an emission does to an encoder, instruction
  by instruction; `emitted_thunk` — a body does it to every open encoder that
  was ever fresh.
* `emission_shape` — so does every way to emit a plan, and a forwarder boxes
  what its registry takes for a value type, if it boxes at all.
-/
import Mathlib.Data.List.Basic
import TypeSynthesis.Proofs.ThunkEmission

namespace TypeSynthesis

namespace Encoder

/-! ## Slots after a declaration -/

variable {e : Encoder} {p q : Purpose}

/-- A new local is found under its own purpose only. -/
theorem slotFor?_withLocal_of_ne (h : p ≠ q) (t : LocalType) :
    (e.withLocal q t).slotFor? p = e.slotFor? p := by
  have hother : (q == p) = false := by simpa using h.symm
  simp [slotFor?, Local.slotFor?, List.find?_append, hother]

theorem WellKept.slotFor?_declaring_of_ne (h : e.WellKept) (hne : p ≠ q) (t : LocalType) :
    (e.declaring q t).slotFor? p = e.slotFor? p := by
  rcases h.declaring_cases q t with ⟨s, -, hd⟩ | ⟨-, hd⟩
  · rw [hd]
  · rw [hd, slotFor?_withLocal_of_ne hne]

/-- A purpose that has a slot keeps it. -/
theorem WellKept.slotFor?_declaring_of_some (h : e.WellKept) {s : Slot}
    (hs : e.slotFor? p = some s) (q : Purpose) (t : LocalType) :
    (e.declaring q t).slotFor? p = some s := by
  by_cases hne : p = q
  · subst hne
    rw [Encoder.declaring, declareLocal_of_slot hs]
    exact hs
  · rw [h.slotFor?_declaring_of_ne hne, hs]

/-- A declaration adds a local where there is none for the purpose. -/
theorem WellKept.locals_declaring (h : e.WellKept) (p : Purpose) (t : LocalType) :
    (e.declaring p t).locals =
      e.locals ++ if (e.slotFor? p).isNone then [⟨⟨.ofNat e.locals.length⟩, p, t⟩] else [] := by
  rcases h.declaring_cases p t with ⟨s, hs, hd⟩ | ⟨hnew, hd⟩
  · rw [hd, hs]
    exact (List.append_nil _).symm
  · rw [hd, hnew]
    rfl

end Encoder

namespace Plan

open Encoder

/-! ## Instructions -/

/-- The loop over the parameters writes one block for each. -/
theorem packCode_eq (boxed : TypeName → Bool) (array : Slot) (index : Nat) (types : List TypeName) :
    packCode boxed array index types =
      (types.mapIdx fun i type => packOneCode boxed array (index + i) type).flatten := by
  induction types generalizing index with
  | nil => rfl
  | cons type rest ih =>
    have hnext (i : Nat) : index + 1 + i = index + (i + 1) := by omega
    rw [packCode, ih, List.mapIdx_cons, List.flatten_cons]
    simp only [hnext, Nat.add_zero]

/-- The numbers that a body for so many parameters writes are what they
should be: its constants are exact, and so are the numbers of arguments. -/
theorem operands_exact {count : Nat} (hroom : count ≤ 65535) :
    (Int32.ofNat count).toInt = count ∧
      ∀ i < count, (Int32.ofNat i).toInt = i ∧ (UInt16.ofNat (i + 1)).toNat = i + 1 := by
  have hconstant (i : Nat) (hi : i ≤ 65535) : (Int32.ofNat i).toInt = i :=
    Int32.toInt_ofNat_of_lt (show i < 2 ^ 31 by omega)
  refine ⟨hconstant count hroom, fun i hi => ⟨hconstant i (by omega), ?_⟩⟩
  exact UInt16.toNat_ofNat_of_lt' (show i + 1 < 65536 by omega)

/-! ## Locals -/

/-- Arguments are packed as objects. -/
theorem packedType_eq : packedType = ⟨"System.Object"⟩ := rfl

/-- The locals that a body asks for, in order. -/
def wanted (plan : Plan) : List (Purpose × LocalType) :=
  (match plan.receiver with
    | .adapter shape => [(.adapter, .adapter shape)]
    | .static | .unbound .. => []) ++ [(.arguments, .array ⟨"System.Object"⟩)]

/-- Of these the ones for which an encoder has no slot, in the next slots. -/
def missing (plan : Plan) (e : Encoder) : List Local :=
  (plan.wanted.filter fun w => (e.slotFor? w.1).isNone).mapIdx fun k w =>
    ⟨⟨.ofNat (e.locals.length + k)⟩, w.1, w.2⟩

variable {plan : Plan} {e : Encoder}

theorem locals_preparing (h : e.WellKept) (plan : Plan) :
    (plan.preparing e).locals = e.locals ++ plan.missing e := by
  have hbound := wellKept_binding h plan
  rw [preparing, hbound.locals_declaring]
  cases hrec : plan.receiver with
  | static =>
    cases hs : e.slotFor? .arguments <;> simp [binding, missing, wanted, packedType_eq, hrec, hs]
  | unbound required owner =>
    cases hs : e.slotFor? .arguments <;> simp [binding, missing, wanted, packedType_eq, hrec, hs]
  | adapter shape =>
    have hother : (plan.binding e).slotFor? .arguments = e.slotFor? .arguments := by
      rw [binding, hrec]
      exact h.slotFor?_declaring_of_ne (by decide) _
    rw [hother, binding, hrec]
    show (e.declaring _ _).locals ++ _ = _
    rw [h.locals_declaring]
    cases ha : e.slotFor? .adapter <;> cases hs : e.slotFor? .arguments <;>
      simp [missing, wanted, packedType_eq, hrec, ha, hs]

/-- A purpose that has a slot keeps it through the body. -/
theorem slotFor?_preparing_of_some (h : e.WellKept) {p : Purpose} {s : Slot}
    (hs : e.slotFor? p = some s) : (plan.preparing e).slotFor? p = some s := by
  have hbinding : (plan.binding e).slotFor? p = some s := by
    unfold binding
    split
    · exact h.slotFor?_declaring_of_some hs _ _
    · exact hs
    · exact hs
  exact (wellKept_binding h plan).slotFor?_declaring_of_some hbinding _ _

/-- An adapter has a slot, once the locals of the body are there. -/
theorem slotFor?_preparing_adapter (h : e.WellKept) {shape : Shape}
    (hrec : plan.receiver = .adapter shape) :
    (plan.preparing e).slotFor? .adapter = some ((plan.binding e).slotOf .adapter) := by
  have hbinding : plan.binding e = e.declaring .adapter (.adapter shape) := by
    rw [binding, hrec]
  rw [preparing, (wellKept_binding h plan).slotFor?_declaring_of_ne (by decide), hbinding]
  exact h.slotFor?_declaring _ _

/-! ## Emissions -/

/-- What the emission of a plan for some parameter types makes of an encoder,
in all its parts, when adapter and array are in these slots. -/
structure Emitted (plan : Plan) (boxed : TypeName → Bool) (types : List TypeName) (e : Encoder)
    (adapter array : Slot) (o : Outcome Encoder Unit) : Prop where
  granted : o.result = .ok ()
  /-- Behind what was there: receiver, array, a block for each parameter, dispatch. -/
  instructions_eq : o.state.instructions.toList = e.instructions.toList ++
    (plan.receiverCode adapter ++
      [⟨.ldcI4, .int32 (.ofNat types.length)⟩, ⟨.newarr, .type ⟨"System.Object"⟩⟩,
        ⟨.stloc, .slot array⟩] ++
      (types.mapIdx (packOneCode boxed array)).flatten ++
      [⟨.ldloc, .slot array⟩, ⟨.invokeLate, .callable plan.callable⟩, ⟨.ret, .none⟩])
  adapter_slot : ∀ shape, plan.receiver = .adapter shape →
    o.state.slotFor? .adapter = some adapter
  array_slot : o.state.slotFor? .arguments = some array
  /-- Slots that were there are used again, whatever their types. -/
  reused : ∀ p s, e.slotFor? p = some s → o.state.slotFor? p = some s
  locals_eq : o.state.locals = e.locals ++ plan.missing e
  numbered : ∀ (k : Nat) (l : Local), o.state.locals[k]? = some l → l.slot.index.toNat = k
  depth_eq : o.state.depth = e.depth + if plan.returnsValue then 1 else 0
  maxDepth_eq : o.state.maxDepth = max e.maxDepth (e.depth + if types = [] then 2 else 4)
  ended_eq : o.state.ended = true

/-- A body does this to every open encoder that is well kept. -/
theorem emitted_thunk (h : e.WellKept) (hopen : e.ended = false) (boxed : TypeName → Bool)
    {types : List TypeName} (hplanned : types.length = plan.parameters.length)
    (hroom : types.length ≤ 65535) :
    ∃ adapter array, plan.Emitted boxed types e adapter array ((plan.thunk boxed types).run e) := by
  obtain ⟨hresult, hstate⟩ :=
    thunk_yields (b := boxed) h hopen hplanned (Nat.lt_succ_of_le hroom)
  have hsame := sameBody_preparing h plan
  have hkept : (plan.preparing e).WellKept := (wellKept_binding h plan).declaring _ _
  have hlocals : ((plan.thunk boxed types).run e).state.locals = (plan.preparing e).locals := by
    rw [hstate]
    rfl
  have hslots (p : Purpose) :
      ((plan.thunk boxed types).run e).state.slotFor? p = (plan.preparing e).slotFor? p := by
    rw [slotFor?, hlocals]
    rfl
  refine ⟨(plan.binding e).slotOf .adapter, (plan.preparing e).slotOf .arguments, ?_⟩
  constructor
  case granted => exact hresult
  case instructions_eq =>
    rw [hstate]
    have hcode := toList_instructions_extended (plan.preparing e)
    refine (hcode _ 0 0).trans ?_
    rw [hsame.instructions_eq, code, packingCode, packCode_eq, arrayCode, packedType_eq]
    simp only [Nat.zero_add, List.append_assoc]
  case adapter_slot =>
    intro shape hrec
    rw [hslots]
    exact slotFor?_preparing_adapter h hrec
  case array_slot =>
    rw [hslots]
    exact (wellKept_binding h plan).slotFor?_declaring _ _
  case reused =>
    intro p s hs
    rw [hslots]
    exact slotFor?_preparing_of_some h hs
  case locals_eq => rw [hlocals, locals_preparing h]
  case numbered =>
    rw [hlocals]
    exact hkept.slot_eq
  case depth_eq =>
    rw [hstate]
    show e.depth + plan.returnsValue.toNat = _
    cases plan.returnsValue <;> rfl
  case maxDepth_eq =>
    rw [hstate]
    show max (plan.preparing e).maxDepth _ = _
    rw [hsame.maxDepth_eq]
  case ended_eq => rw [hstate]

end Plan

namespace Forwarder

open Encoder

/-- **The shape of an emission** is the same on every open encoder that was
ever fresh, whatever stands there already, for every plan and any parameter
types, as many as planned and no more than an instruction can name. Whatever
is to be boxed, the body does what `Emitted` says, and every number in it is
exact. A forwarder boxes the parameters of the types that its registry takes
for value types, if it boxes values, and no others. So does a method with
these parameters that has such a body, one to which the forwarder attached
the body, and the emission of a plan that is made for these parameters. -/
theorem emission_shape (plan : Plan) (types : List TypeName) (qs : List Request)
    (hopen : (fresh.afterAll qs).ended = false)
    (hplanned : types.length = plan.parameters.length) (hroom : types.length ≤ 65535) :
    let e := fresh.afterAll qs
    (∀ boxed : TypeName → Bool, ∃ adapter array,
      plan.Emitted boxed types e adapter array ((plan.thunk boxed types).run e)) ∧
    ((Int32.ofNat types.length).toInt = types.length ∧
      ∀ i < types.length,
        (Int32.ofNat i).toInt = i ∧ (UInt16.ofNat (i + 1)).toNat = i + 1) ∧
    ∀ f : Forwarder,
      let boxed (t : TypeName) : Bool := f.boxesValues && f.registry.isValueType t
      (∀ m : Method, m.body = some (f.thunk plan) → m.parameterTypes = types →
        ∃ adapter array, plan.Emitted boxed types e adapter array (m.emitBody e)) ∧
      (∀ (m : Method) (c : CallableName), (f.plan m c).result = .ok plan →
        (f.forward m c).result = .ok () → m.parameterTypes = types →
        ∃ adapter array,
          plan.Emitted boxed types e adapter array ((f.forward m c).state.emitBody e)) ∧
      (plan.parameters = types →
        ∃ adapter array, plan.Emitted boxed types e adapter array (f.emit plan e)) := by
  intro e
  have hkept : e.WellKept := wellKept_afterAll qs
  have hthunk (boxed : TypeName → Bool) := Plan.emitted_thunk hkept hopen boxed hplanned hroom
  refine ⟨hthunk, Plan.operands_exact hroom, fun f => ?_⟩
  intro boxed
  have hbody (m : Method) (hm : m.body = some (f.thunk plan)) (htypes : m.parameterTypes = types) :
      ∃ adapter array, plan.Emitted boxed types e adapter array (m.emitBody e) := by
    rw [Method.emitBody, hm, htypes]
    exact hthunk boxed
  refine ⟨hbody, ?_, ?_⟩
  · intro m c hplan hgranted htypes
    obtain ⟨made, hmade, hstate, -⟩ := forward_fits hgranted
    obtain rfl : made = plan := Except.ok.inj (hmade.symm.trans hplan)
    rw [hstate]
    exact hbody _ rfl htypes
  · intro hparameters
    rw [emit, hparameters]
    exact hthunk boxed

/-- Where a value waits on the stack and the arguments have a local of another
type, that local is used again, and the one for the adapter comes behind it.
Of an integer and a text the integer is boxed, unless values are not. -/
theorem emission_shape_crowded :
    let int : TypeName := ⟨"System.Int32"⟩
    let text : TypeName := ⟨"System.String"⟩
    let plan : Plan := ⟨⟨"Say"⟩, .adapter (.action [int, text]), [int, text], false⟩
    let f := Forwarder.standard .initial
    let e := fresh.afterAll [.declareLocal .arguments (.value int), .write .ldnull]
    (f.emit plan e).state.instructions.toList =
      [⟨.ldnull, .none⟩,
        ⟨.ldftn, .callable ⟨"Say"⟩⟩, ⟨.newobj, .adapter (.action [int, text])⟩,
        ⟨.stloc, .slot ⟨1⟩⟩, ⟨.ldloc, .slot ⟨1⟩⟩,
        ⟨.ldcI4, .int32 2⟩, ⟨.newarr, .type ⟨"System.Object"⟩⟩, ⟨.stloc, .slot ⟨0⟩⟩,
        ⟨.ldloc, .slot ⟨0⟩⟩, ⟨.ldcI4, .int32 0⟩, ⟨.ldarg, .argument 1⟩, ⟨.box, .type int⟩,
        ⟨.stelemRef, .none⟩,
        ⟨.ldloc, .slot ⟨0⟩⟩, ⟨.ldcI4, .int32 1⟩, ⟨.ldarg, .argument 2⟩, ⟨.stelemRef, .none⟩,
        ⟨.ldloc, .slot ⟨0⟩⟩, ⟨.invokeLate, .callable ⟨"Say"⟩⟩, ⟨.ret, .none⟩] ∧
      (f.emit plan e).state.locals =
        [⟨⟨0⟩, .arguments, .value int⟩, ⟨⟨1⟩, .adapter, .adapter (.action [int, text])⟩] ∧
      ⟨.box, .type int⟩ ∉
        (Forwarder.emit { f with boxesValues := false } plan e).state.instructions.toList := by
  intro int text plan f e
  obtain ⟨-, -, hforwarder⟩ := emission_shape plan [int, text]
    [.declareLocal .arguments (.value int), .write .ldnull] rfl rfl (by decide)
  have hslots {boxed : TypeName → Bool} {adapter array : Slot} {o : Outcome Encoder Unit}
      (h : plan.Emitted boxed [int, text] e adapter array o) : adapter = ⟨1⟩ ∧ array = ⟨0⟩ := by
    have hreused := h.reused .arguments ⟨0⟩ rfl
    have hslot := h.adapter_slot _ rfl
    rw [h.array_slot] at hreused
    rw [slotFor?, h.locals_eq] at hslot
    exact ⟨(Option.some.inj hslot).symm, Option.some.inj hreused⟩
  obtain ⟨adapter, array, h⟩ := (hforwarder f).2.2 rfl
  obtain ⟨plainAdapter, plainArray, hplain⟩ := (hforwarder { f with boxesValues := false }).2.2 rfl
  obtain ⟨rfl, rfl⟩ := hslots h
  obtain ⟨rfl, rfl⟩ := hslots hplain
  refine ⟨?_, ?_, ?_⟩
  · rw [h.instructions_eq]
    decide
  · rw [h.locals_eq]
    decide
  · rw [hplain.instructions_eq]
    decide

end Forwarder

end TypeSynthesis
