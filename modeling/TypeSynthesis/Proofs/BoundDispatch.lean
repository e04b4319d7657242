/-
TypeSynthesis.Proofs.BoundDispatch — no callable of an instance is called
without its adapter.

A forwarder that rejects unbound callables decides once, when it attaches a
body. The decision is part of the body, so it outlives everything that
happens to the type afterwards: later attempts that are refused, new names
and scopes, and whatever is done to other types. Only another attached body
replaces it, and then with a decision of its own.

* `Plan.BoundIn` — the plan binds what the registry says must be bound.
* `Method.Bound` — so does the body of a method; `bound_perform` — a step by
  a forwarder that rejects keeps it.
* `Blueprint.BindsAll`, `bound_performAll` — histories that attach nothing
  else; all bodies of the type are bound after them.
* `performAmong` — operations on several types; `performAmong_apply` — they
  do not meet.
* `dispatches_built`, `newobj_code` — what the code of a plan calls, and the
  adapter that it makes.
* `dispatches_bound` — every call of every method is bound.
-/
import Mathlib.Logic.Function.Basic
import TypeSynthesis.Proofs.BlueprintHistories
import TypeSynthesis.Proofs.ThunkExecution

namespace TypeSynthesis

/-! ## Bodies -/

/-- The registry knows the callable of the plan, and the plan decided on the
receiver that this callable needs. -/
structure Plan.BoundIn (known : Registry) (plan : Plan) : Prop where
  decided : ∃ target, known.callable? plan.callable = some target ∧
    plan.receiver = .choose target plan.parameters
  bound : ∀ required owner, plan.receiver ≠ .unbound required owner

namespace Method

/-- The body of the method, if it has one, forwards by a plan that is bound. -/
def Bound (known : Registry) (m : Method) : Prop :=
  ∀ body, m.body = some body → ∃ (plan : Plan) (boxed : TypeName → Bool),
    body = plan.thunk boxed ∧ plan.BoundIn known

/-- The step attaches no body, or one by a forwarder over the registry that
rejects unbound callables. -/
def Step.Binds (known : Registry) : Step → Prop
  | .rename _ | .rescope _ => True
  | .forward f _ => f.registry = known ∧ f.policy = .reject
  | .attach _ => False

variable {known : Registry} {m : Method}

theorem bound_of_no_body (h : m.body = none) : m.Bound known := by
  intro body hbody
  rw [h] at hbody
  cases hbody

/-- A forwarder that rejects attaches a bound body or none. -/
theorem bound_forward {f : Forwarder} (h : m.Bound f.registry) (hreject : f.policy = .reject)
    (c : CallableName) : (f.forward m c).state.Bound f.registry := by
  cases hr : (f.forward m c).result with
  | error fault => rwa [Forwarder.state_forward_of_error hr]
  | ok u =>
    obtain ⟨plan, warned, hplan, hallow⟩ := (f.result_forward_eq_ok_iff m c).mp hr
    have hstate : (f.forward m c).state = { m with body := some (f.thunk plan) } := by
      simp [Forwarder.forward, hplan, hallow]
    rw [hstate]
    rintro body ⟨⟩
    refine ⟨plan, f.boxes, rfl, ?_, ?_⟩
    · obtain ⟨target, hc, -, -, rfl⟩ := (Plan.make_eq_ok_iff ..).mp hplan
      exact ⟨target, hc, rfl⟩
    · intro required owner hunbound
      simp [Forwarder.allow, hunbound, hreject] at hallow

theorem bound_perform {step : Step} (hstep : step.Binds known) (h : m.Bound known) :
    (m.perform step).state.Bound known := by
  cases step with
  | rename name => exact h
  | rescope scope => exact h
  | attach body => exact hstep.elim
  | forward f c =>
    obtain ⟨rfl, hreject⟩ := hstep
    exact bound_forward h hreject c

end Method

/-! ## Histories -/

namespace Blueprint

variable {known : Registry}

/-- All bodies that the history attaches are attached by forwarders over the
registry that reject unbound callables. Attempts that are refused attach
nothing, whoever makes them. -/
def BindsAll (known : Registry) (b : Blueprint) : List Operation → Prop
  | [] => True
  | op :: rest =>
    (∀ step ∈ op.taken (b.perform op).result, step.Binds known) ∧
      BindsAll known (b.perform op).state rest

theorem bound_performAll {b : Blueprint} {ops : List Operation} (hops : b.BindsAll known ops)
    (h : ∀ m ∈ b.methods, m.Bound known) : ∀ m ∈ (b.performAll ops).1.methods, m.Bound known := by
  induction ops generalizing b with
  | nil => exact h
  | cons op rest ih =>
    obtain ⟨htaken, hrest⟩ := hops
    exact ih hrest (methods_perform_keeps (fun m => Method.bound_of_no_body)
      (fun step hstep m hm => Method.bound_perform (htaken step hstep) hm) h)

end Blueprint

section Several

variable {ι : Type} [DecidableEq ι]

/-- Perform operations on several types in the given order, each on the type
that it names. -/
def performAmong (types : ι → Blueprint) : List (ι × Operation) → ι → Blueprint
  | [] => types
  | (i, op) :: rest => performAmong (Function.update types i ((types i).perform op).state) rest

/-- The operations on one of the types. -/
def operationsOn (i : ι) (run : List (ι × Operation)) : List Operation :=
  (run.filter (·.1 = i)).map (·.2)

/-- What becomes of a type is up to the operations on it. -/
theorem performAmong_apply (types : ι → Blueprint) (run : List (ι × Operation)) (i : ι) :
    performAmong types run i = ((types i).performAll (operationsOn i run)).1 := by
  induction run generalizing types with
  | nil => rfl
  | cons entry rest ih =>
    obtain ⟨j, op⟩ := entry
    rw [performAmong, ih]
    by_cases hji : j = i
    · subst hji
      simp [operationsOn, Blueprint.performAll]
    · simp [operationsOn, hji, Function.update_of_ne (Ne.symm hji)]

end Several

/-! ## The code of a plan -/

namespace Plan

variable {plan : Plan} {boxed : TypeName → Bool} {types : List TypeName}

theorem newobj_packCode (array : Slot) (index : Nat) (types : List TypeName) :
    (packCode boxed array index types).filter (·.opcode == .newobj) = [] := by
  induction types generalizing index with
  | nil => rfl
  | cons type rest ih =>
    rw [packCode, List.filter_append, ih]
    cases hbox : boxed type <;> simp [packOneCode, hbox]

/-- The code makes the adapter that the plan decided on, and no other. -/
theorem newobj_code (plan : Plan) (boxed : TypeName → Bool) (adapter array : Slot)
    (types : List TypeName) :
    (plan.code boxed adapter array types).filter (·.opcode == .newobj) =
      match plan.receiver with
      | .adapter shape => [⟨.newobj, .adapter shape⟩]
      | .static | .unbound .. => [] := by
  rw [code, packingCode, List.filter_append, List.filter_append, List.filter_append,
    newobj_packCode]
  cases hrec : plan.receiver <;> simp [receiverCode, arrayCode, hrec]

/-- The built code calls nothing but the callable of the plan, on the
receiver of the plan. -/
theorem dispatches_built (plan : Plan) (boxed : TypeName → Bool)
    (hroom : types.length < UInt16.size) (machine : Machine) (arguments : List Value) :
    ∃ recorded, (machine.execute (plan.built boxed types) arguments).2.dispatches =
        machine.dispatches ++ recorded ∧
      ∀ d ∈ recorded, d.callable = plan.callable ∧ d.receiver = plan.receiverValue := by
  obtain ⟨hfew, hnone⟩ := execute_built_traps plan boxed machine arguments hroom
  rcases Nat.lt_or_ge arguments.length types.length with hlt | henough
  · exact ⟨[], by simp [(hfew hlt).2], by simp⟩
  · cases hhost : machine.hosts.find? plan.callable with
    | none => exact ⟨[], by simp [(hnone henough hhost).2], by simp⟩
    | some host =>
      obtain ⟨-, hcall⟩ := execute_built (b := boxed) hhost hroom henough
      exact ⟨_, hcall, by simp⟩

/-- The receiver of a bound plan is that of the callable: the adapter of its
own shape for a callable of an instance, null for a static one. -/
theorem BoundIn.receiver_cases {known : Registry} (h : plan.BoundIn known) :
    ∃ target, known.callable? plan.callable = some target ∧
      ((target.isStatic = true ∧ plan.receiver = .static) ∨
        ∃ shape, target.isStatic = false ∧ target.owner = .adapter shape ∧
          plan.receiver = .adapter shape) := by
  obtain ⟨target, hc, hreceiver⟩ := h.decided
  refine ⟨target, hc, ?_⟩
  cases hplan : plan.receiver with
  | static => exact .inl ⟨(Receiver.choose_eq_static_iff ..).mp (hreceiver.symm.trans hplan), rfl⟩
  | adapter shape =>
    obtain ⟨hstatic, howner, -⟩ :=
      (Receiver.choose_eq_adapter_iff ..).mp (hreceiver.symm.trans hplan)
    exact .inr ⟨shape, hstatic, howner, rfl⟩
  | unbound required owner => exact absurd hplan (h.bound required owner)

end Plan

/-! ## Calls -/

/-- The code of a method with a bound body is that of a bound plan. -/
theorem Method.Bound.code_eq {known : Registry} {m : Method} {code : Code} (h : m.Bound known)
    (hcode : m.buildBody.result = .ok code) :
    ∃ (plan : Plan) (boxed : TypeName → Bool), plan.BoundIn known ∧
      m.parameters.length < UInt16.size ∧ code = plan.built boxed m.parameterTypes := by
  cases hbody : m.body with
  | none => simp [buildBody, emitBody, hbody, Except.bind] at hcode
  | some body =>
    obtain ⟨plan, boxed, rfl, hbound⟩ := h body hbody
    obtain ⟨hplanned, hroom, hreturns⟩ := (Plan.buildBody_thunk_iff hbody).mp ⟨code, hcode⟩
    have hbuilt := Plan.buildBody_thunk hbody hplanned (Nat.lt_succ_of_le hroom) hreturns
    exact ⟨plan, boxed, hbound, Nat.lt_succ_of_le hroom, Except.ok.inj (hcode.symm.trans hbuilt)⟩

/-- **Every call is bound.** Let bodies be attached to the methods of any
types only by forwarders over one registry that reject unbound callables.
Then whatever code is built of a method afterwards, and on whatever machine
and arguments it runs: each call that is recorded is one of a callable that
the registry knows. If this belongs to an instance, the receiver is its
adapter, and the one adapter that the code makes is of the shape on which the
callable is declared. If it is static, the receiver is null, and only then. -/
theorem dispatches_bound {ι : Type} [DecidableEq ι] (known : Registry) (types : ι → Registry)
    (scopes : ι → Scope) (run : List (ι × Operation))
    (hrun : ∀ i, (Blueprint.ofScope (types i) (scopes i)).BindsAll known (operationsOn i run))
    (i : ι) (m : Method)
    (hm : m ∈ (performAmong (fun i => .ofScope (types i) (scopes i)) run i).methods) (code : Code)
    (hcode : m.buildBody.result = .ok code) (machine : Machine) (arguments : List Value) :
    ∃ recorded, (machine.execute code arguments).2.dispatches = machine.dispatches ++ recorded ∧
      ∀ d ∈ recorded, ∃ target, known.callable? d.callable = some target ∧
        (target.isStatic = false → d.receiver = .adapter d.callable ∧
          ∃ shape, target.owner = .adapter shape ∧
            code.instructions.filter (·.opcode == .newobj) = [⟨.newobj, .adapter shape⟩]) ∧
        (d.receiver = .null ↔ target.isStatic = true) := by
  rw [performAmong_apply] at hm
  have hbound := Blueprint.bound_performAll (hrun i) (by simp [Blueprint.ofScope]) m hm
  obtain ⟨plan, boxed, hplan, hroom, rfl⟩ := hbound.code_eq hcode
  obtain ⟨target, hc, hreceiver⟩ := hplan.receiver_cases
  have hlength : m.parameterTypes.length < UInt16.size := (List.length_map ..).trans_lt hroom
  obtain ⟨recorded, hdispatches, hrecorded⟩ := plan.dispatches_built boxed hlength machine arguments
  refine ⟨recorded, hdispatches, fun d hd => ?_⟩
  obtain ⟨hcallable, hd⟩ := hrecorded d hd
  rw [hcallable, hd]
  refine ⟨target, hc, ?_⟩
  rcases hreceiver with ⟨hstatic, hrec⟩ | ⟨shape, hstatic, howner, hrec⟩
  · simp [hstatic, Plan.receiverValue, hrec]
  · have hnewobj : (plan.built boxed m.parameterTypes).instructions.filter (·.opcode == .newobj) =
        [⟨.newobj, .adapter shape⟩] := by
      rw [Plan.built, Plan.newobj_code, hrec]
    have hvalue : plan.receiverValue = .adapter plan.callable := by rw [Plan.receiverValue, hrec]
    refine ⟨fun _ => ⟨hvalue, shape, howner, hnewobj⟩, ?_⟩
    simp [hstatic, hvalue]

/-- A callable of an instance that no adapter binds. -/
def unbindable : Callable :=
  .instanceMethod ⟨"Say"⟩ Primitive.object.typeName Forwarder.invoker.parameters
    Forwarder.invoker.returns

/-- A forwarder that knows one callable that can be bound, and one that
cannot. -/
def binding : Forwarder :=
  .standard ((Registry.initial.putCallable Forwarder.invoker).putCallable unbindable)

/-- On one type a method is shaped after the callable that can be bound and
then cannot be forwarded to the other one; a second type is named. -/
def bindingRun : List (Bool × Operation) :=
  [(true, .forwarding binding ⟨"Invoke"⟩ []), (false, .rename "Other"),
    (true, .forward binding (some 0) ⟨"Say"⟩)]

/-- The plan that stays in force. -/
def bindingPlan : Plan :=
  ⟨⟨"Invoke"⟩, .adapter (.ofSignature Forwarder.invoker.parameters Forwarder.invoker.returns),
    Forwarder.invoker.parameters, true⟩

/-- The method that carries it. -/
def bindingMethod : Method :=
  ⟨0, some "Invoke", Forwarder.invoker.returns,
    Forwarder.invoker.parameters.mapIdx fun i t => .numbered (i + 1) t, .ownType,
    some (binding.thunk bindingPlan)⟩

theorem dispatches_bound_invoking :
    ∃ m ∈ (performAmong (fun _ => .ofScope binding.registry .assembly) bindingRun true).methods,
      ∃ code packed, m.buildBody.result = .ok code ∧
        (Forwarder.invokingMachine.execute code [.int32 7, .text "x"]).2.dispatches =
          [⟨⟨"Invoke"⟩, .adapter ⟨"Invoke"⟩, packed⟩] ∧
        code.instructions.filter (·.opcode == .newobj) =
          [⟨.newobj,
            .adapter (.ofSignature Forwarder.invoker.parameters Forwarder.invoker.returns)⟩] := by
  have hmethods :
      (performAmong (fun _ => .ofScope binding.registry .assembly) bindingRun true).methods =
        [bindingMethod] := by rfl
  have hm : bindingMethod ∈
      (performAmong (fun _ => .ofScope binding.registry .assembly) bindingRun true).methods := by
    rw [hmethods]
    exact List.mem_singleton_self _
  -- The attempt on the callable that cannot be bound is refused, so it takes no step.
  have hrun (i : Bool) : (Blueprint.ofScope binding.registry .assembly).BindsAll binding.registry
      (operationsOn i bindingRun) := by
    cases i with
    | false => exact ⟨fun step hstep => absurd hstep List.not_mem_nil, trivial⟩
    | true =>
      refine ⟨fun step hstep => ?_, fun step hstep => absurd hstep List.not_mem_nil, trivial⟩
      obtain rfl : step = .forward binding ⟨"Invoke"⟩ := List.mem_singleton.mp hstep
      exact ⟨rfl, rfl⟩
  have hcode : bindingMethod.buildBody.result =
      .ok (bindingPlan.built binding.boxes bindingMethod.parameterTypes) :=
    Plan.buildBody_thunk rfl rfl (by decide) rfl
  have hhost : Forwarder.invokingMachine.hosts.find? bindingPlan.callable = some Host.last := by
    simp [Forwarder.invokingMachine, Machine.setHost, Table.find?_put, bindingPlan]
  have hcall : (Forwarder.invokingMachine.execute
      (bindingPlan.built binding.boxes bindingMethod.parameterTypes)
      [.int32 7, .text "x"]).2.dispatches = [⟨⟨"Invoke"⟩, bindingPlan.receiverValue, _⟩] :=
    (Plan.execute_built hhost (by decide) (by decide)).2
  obtain ⟨recorded, hrecorded, hbound⟩ :=
    dispatches_bound binding.registry (fun _ => binding.registry) (fun _ => .assembly) bindingRun
      hrun true bindingMethod hm _ hcode Forwarder.invokingMachine [.int32 7, .text "x"]
  obtain rfl := hrecorded.symm.trans hcall
  obtain ⟨target, hknown, hinstance, -⟩ := hbound _ (List.mem_singleton_self _)
  obtain rfl : Forwarder.invoker = target := by
    have hinvoker : binding.registry.callable? ⟨"Invoke"⟩ = some Forwarder.invoker := by rfl
    exact Option.some.inj (hinvoker.symm.trans hknown)
  obtain ⟨hreceiver, shape, howner, hnewobj⟩ := hinstance rfl
  cases howner
  have hvalue : bindingPlan.receiverValue = .adapter ⟨"Invoke"⟩ := hreceiver
  rw [hvalue] at hcall
  exact ⟨bindingMethod, hm, _, _, hcode, hcall, hnewobj⟩

end TypeSynthesis
