/-
TypeSynthesis.Proofs.ForwardAcceptance — which bodies that forward are
attached.

Four questions are asked before a body is attached. Is the callable known?
Do method and callable agree on leaving a value? Do they take equally many
arguments? Can the callable be bound, or may it go unbound? The first three
decide on the plan, which then says how the receiver comes about; only the
last one asks the policy.

* `Plan.make_eq_error_iff`, `Plan.make_eq_ok_congr` — when there is no plan,
  and what of a method the plan depends on.
* `Receiver.choose_eq` — the receiver, read off the owner of the callable.
* `Forwarder.allow_eq_error_iff` — the only thing that a policy forbids.
* `Blueprint.declared_forwarding` — methods that are shaped after a callable
  that needs no adapter, or brings its own.
* `Forwarder.acceptance_determined` — all of it, for one method and one
  callable.
-/
import TypeSynthesis.Proofs.KnownMentions

namespace TypeSynthesis

/-! ## Plans -/

namespace Plan

variable {known : Registry} {m n : Method} {c : CallableName}

/-- The three reasons for which there is no plan, in the order in which they
are looked for. -/
theorem make_eq_error_iff (known : Registry) (m : Method) (c : CallableName) (fault : Fault) :
    make known m c = .error fault ↔
      known.callable? c = none ∧ fault = .unknownCallable c ∨
      ∃ target, known.callable? c = some target ∧
        (m.returns.isVoid ≠ target.returns.isVoid ∧
            fault = .returnMismatch m.returns c target.returns ∨
          m.returns.isVoid = target.returns.isVoid ∧
            m.parameters.length ≠ target.parameters.length ∧
            fault = .countMismatch m.parameters.length c target.parameters.length) := by
  unfold make
  cases known.callable? c with
  | none => simp [eq_comm]
  | some target =>
    by_cases hvoid : m.returns.isVoid = target.returns.isVoid <;>
      by_cases hcount : m.parameters.length = target.parameters.length <;>
        simp [hvoid, hcount, eq_comm]

/-- Of a method the plan sees the types of its parameters, and whether it
leaves a value. -/
theorem make_eq_ok_congr (hvoid : n.returns.isVoid = m.returns.isVoid)
    (htypes : n.parameterTypes = m.parameterTypes) (plan : Plan) :
    make known n c = .ok plan ↔ make known m c = .ok plan := by
  have hcount : n.parameters.length = m.parameters.length := by
    simpa [Method.parameterTypes] using congrArg List.length htypes
  rw [make_eq_ok_iff, make_eq_ok_iff, hvoid, htypes, hcount]

/-- The plan for a callable that agrees with the method. -/
theorem make_of_agreement {target : Callable} (hknown : known.callable? c = some target)
    (hvoid : m.returns.isVoid = target.returns.isVoid)
    (hcount : m.parameters.length = target.parameters.length) :
    make known m c =
      .ok ⟨c, .choose target m.parameterTypes, m.parameterTypes, target.returnsValue⟩ :=
  (make_eq_ok_iff ..).mpr ⟨target, hknown, hvoid, hcount, rfl⟩

end Plan

/-! ## Receivers -/

/-- The callable is declared on an adapter of the shape that takes arguments
of these types and leaves what the callable does. -/
def Callable.DeclaredOnShapeOf (target : Callable) (arguments : List TypeName) : Prop :=
  target.owner = .adapter (.ofSignature arguments target.returns)

theorem Callable.shape?_eq_some_iff (target : Callable) (shape : Shape) :
    target.shape? = some shape ↔ target.owner = .adapter shape := by
  unfold shape?
  cases target.owner <;> simp

namespace Receiver

/-- A static callable needs no receiver. Any other is dispatched on an
adapter if it is declared on the shape that is asked for. -/
theorem choose_eq (target : Callable) (arguments : List TypeName) :
    choose target arguments =
      if target.isStatic = true then .static
      else if target.owner = .adapter (.ofSignature arguments target.returns) then
        .adapter (.ofSignature arguments target.returns)
      else .unbound (.ofSignature arguments target.returns) target.owner := by
  have hshape := target.shape?_eq_some_iff (.ofSignature arguments target.returns)
  unfold choose
  by_cases howner : target.owner = .adapter (.ofSignature arguments target.returns)
  · simp only [hshape.mpr howner, howner, if_true]
  · simp only [mt hshape.mp howner, howner, if_false]

/-- A callable of an instance stays unbound exactly when it is not declared
on the shape that is asked for. -/
theorem choose_unbound_iff (target : Callable) (arguments : List TypeName) :
    (∃ required owner, choose target arguments = .unbound required owner) ↔
      target.isStatic = false ∧ ¬target.DeclaredOnShapeOf arguments := by
  rw [choose_eq, Callable.DeclaredOnShapeOf]
  cases target.isStatic with
  | true => simp
  | false =>
    by_cases h : target.owner = .adapter (.ofSignature arguments target.returns) <;> simp [h]

/-- The invoker of an adapter is bound for arguments of its own types, and
for no others. -/
theorem choose_ofAdapter_iff (name : CallableName) (ps : List TypeName) (r : ReturnKind)
    (arguments : List TypeName) :
    (∃ shape, choose (.ofAdapter name ps r) arguments = .adapter shape) ↔ arguments = ps := by
  simp only [choose_eq_adapter_iff, Callable.ofAdapter, Owner.adapter.injEq]
  constructor
  · rintro ⟨shape, -, rfl, h⟩
    exact (Shape.ofSignature_inj.mp h).1.symm
  · rintro rfl
    exact ⟨_, trivial, rfl, rfl⟩

end Receiver

/-! ## Forwarders -/

namespace Forwarder

variable {f : Forwarder} {m n : Method} {c : CallableName} {p : Plan}

/-- A forwarder plans over its registry, whatever its policy. -/
theorem result_plan (f : Forwarder) (m : Method) (c : CallableName) :
    (f.plan m c).result = Plan.make f.registry m c := by
  unfold plan
  cases Plan.make f.registry m c <;> rfl

/-- The one thing that a policy forbids: a callable that stays unbound. -/
theorem allow_eq_error_iff (f : Forwarder) (p : Plan) (fault : Fault) :
    f.allow p = .error fault ↔
      f.policy = .reject ∧ ∃ required owner, p.receiver = .unbound required owner ∧
        fault = .unbindable p.callable required owner := by
  unfold allow
  cases p.receiver <;> cases f.policy <;> simp [eq_comm]

/-- Allowed is what is not forbidden. -/
theorem allow_eq_ok_iff (f : Forwarder) (p : Plan) :
    (∃ warned, f.allow p = .ok warned) ↔
      f.policy = .nullReceiver ∨ ¬∃ required owner, p.receiver = .unbound required owner := by
  unfold allow
  cases p.receiver <;> cases f.policy <;> simp

/-- What a plan says: the callable, what the method takes, what the callable
leaves, and the receiver. -/
theorem result_plan_eq_ok_iff (f : Forwarder) (m : Method) (c : CallableName) (p : Plan) :
    (f.plan m c).result = .ok p ↔
      ∃ target, f.registry.callable? c = some target ∧
        m.returns.isVoid = target.returns.isVoid ∧
        m.parameters.length = target.parameters.length ∧
        p.callable = c ∧ p.parameters = m.parameterTypes ∧
        p.returnsValue = !target.returns.isVoid ∧
        p.receiver =
          if target.isStatic = true then .static
          else if target.owner = .adapter (.ofSignature m.parameterTypes target.returns) then
            .adapter (.ofSignature m.parameterTypes target.returns)
          else .unbound (.ofSignature m.parameterTypes target.returns) target.owner := by
  rw [result_plan, Plan.make_eq_ok_iff]
  refine exists_congr fun target => and_congr_right fun _ => and_congr_right fun _ =>
    and_congr_right fun _ => ?_
  rw [← Receiver.choose_eq]
  constructor
  · rintro rfl
    exact ⟨rfl, rfl, rfl, rfl⟩
  · intro h
    obtain ⟨callable, receiver, parameters, returnsValue⟩ := p
    obtain ⟨rfl, rfl, rfl, rfl⟩ := h
    rfl

/-- A body is refused for want of a plan, with the fault of the plan, or by
the policy. -/
theorem result_forward_eq_error_iff (f : Forwarder) (m : Method) (c : CallableName)
    (fault : Fault) :
    (f.forward m c).result = .error fault ↔
      (f.plan m c).result = .error fault ∨
      ∃ p required owner, (f.plan m c).result = .ok p ∧ p.receiver = .unbound required owner ∧
        f.policy = .reject ∧ fault = .unbindable c required owner := by
  rw [result_plan]
  unfold forward
  cases hmade : Plan.make f.registry m c with
  | error other => simp
  | ok p =>
    have hcallable : p.callable = c := by
      obtain ⟨target, -, -, -, rfl⟩ := (Plan.make_eq_ok_iff ..).mp hmade
      rfl
    have hforbids := f.allow_eq_error_iff p fault
    rw [hcallable] at hforbids
    cases hallow : f.allow p with
    | error other => simpa [hallow, and_left_comm] using hforbids
    | ok warned => simpa [hallow, and_left_comm] using hforbids

/-- A body is attached exactly when method and callable agree, and the
callable is bound or may go unbound. -/
theorem result_forward_iff (f : Forwarder) (m : Method) (c : CallableName) :
    (f.forward m c).result = .ok () ↔
      ∃ target, f.registry.callable? c = some target ∧
        m.returns.isVoid = target.returns.isVoid ∧
        m.parameters.length = target.parameters.length ∧
        (target.isStatic = true ∨ target.DeclaredOnShapeOf m.parameterTypes ∨
          f.policy = .nullReceiver) := by
  have hbound (target : Callable) :
      (f.policy = .nullReceiver ∨
          ¬∃ required owner, Receiver.choose target m.parameterTypes = .unbound required owner) ↔
        (target.isStatic = true ∨ target.DeclaredOnShapeOf m.parameterTypes ∨
          f.policy = .nullReceiver) := by
    rw [Receiver.choose_unbound_iff]
    cases target.isStatic with
    | true => simp
    | false => simp [or_comm]
  rw [result_forward_eq_ok_iff]
  constructor
  · rintro ⟨p, warned, hp, hallow⟩
    obtain ⟨target, hknown, hvoid, hcount, rfl⟩ := (Plan.make_eq_ok_iff ..).mp hp
    refine ⟨target, hknown, hvoid, hcount, (hbound target).mp ?_⟩
    exact (f.allow_eq_ok_iff _).mp ⟨warned, hallow⟩
  · rintro ⟨target, hknown, hvoid, hcount, h⟩
    obtain ⟨warned, hallow⟩ := (f.allow_eq_ok_iff
      ⟨c, .choose target m.parameterTypes, m.parameterTypes, target.returnsValue⟩).mpr
        ((hbound target).mpr h)
    exact ⟨_, warned, Plan.make_of_agreement hknown hvoid hcount, hallow⟩

/-- What comes of a plan that is allowed: the method has the body of the plan,
and is otherwise as it was. -/
theorem forward_of_allowed {warned : Journal} (hplan : Plan.make f.registry m c = .ok p)
    (hallow : f.allow p = .ok warned) :
    f.forward m c = ⟨.ok (), { m with body := some (f.thunk p) },
      .planned c p.receiver :: (warned ++ (m.attach (f.thunk p)).told)⟩ := by
  simp only [forward, hplan, hallow, Method.result_attach, Method.state_attach]

theorem state_forward_of_ok (h : (f.forward m c).result = .ok ()) :
    ∃ p, (f.forward m c).state = { m with body := some (f.thunk p) } := by
  obtain ⟨p, warned, hplan, hallow⟩ := (f.result_forward_eq_ok_iff m c).mp h
  exact ⟨p, by rw [forward_of_allowed hplan hallow]⟩

/-- A body that is attached is there. -/
theorem hasBody_forward (h : (f.forward m c).result = .ok ()) :
    (f.forward m c).state.hasBody = true := by
  obtain ⟨p, hstate⟩ := state_forward_of_ok h
  rw [hstate]
  rfl

/-- Whether a body is attached depends on the method as far as its plan
does. -/
theorem result_forward_congr (hvoid : n.returns.isVoid = m.returns.isVoid)
    (htypes : n.parameterTypes = m.parameterTypes) :
    (f.forward n c).result = .ok () ↔ (f.forward m c).result = .ok () := by
  rw [result_forward_eq_ok_iff, result_forward_eq_ok_iff]
  simp only [Plan.make_eq_ok_congr hvoid htypes]

end Forwarder

/-! ## Methods that are shaped after a callable -/

namespace Blueprint

variable {b : Blueprint} {f : Forwarder} {c : CallableName} {target : Callable}

theorem parameterTypes_shapedMethod (b : Blueprint) (target : Callable) :
    (b.shapedMethod target).parameterTypes = target.parameters :=
  List.append_cancel_left (b.types_shapedMethod target)

/-- A method that is shaped after a callable that is static, or declared on
the shape of its own signature, can always be forwarded to it. -/
theorem result_forward_shapedMethod (hknown : f.registry.callable? c = some target)
    (h : target.isStatic = true ∨ target.DeclaredOnShapeOf target.parameters) :
    (f.forward (b.shapedMethod target) c).result = .ok () := by
  refine (f.result_forward_iff _ c).mpr ⟨target, hknown, rfl, ?_, ?_⟩
  · simp [shapedMethod, newMethod]
  · rw [parameterTypes_shapedMethod]
    exact h.imp_right .inl

/-- Over one registry such a method is declared, with its body. -/
theorem declared_forwarding (hshared : b.registry = f.registry)
    (hknown : f.registry.callable? c = some target)
    (h : target.isStatic = true ∨ target.DeclaredOnShapeOf target.parameters) :
    (b.perform (.forwarding f c [])).result = .ok (.declared ⟨b.methods.length, none⟩) ∧
      ∃ m, (b.perform (.forwarding f c [])).state.methods = b.methods ++ [m] ∧
        m.hasBody = true := by
  have hattached := result_forward_shapedMethod (b := b) hknown h
  rw [perform_forwarding (hshared ▸ hknown) hattached]
  exact ⟨rfl, _, rfl, Forwarder.hasBody_forward hattached⟩

end Blueprint

/-! ## All together -/

namespace Forwarder

/-- **What decides on a body that forwards.** For every forwarder, method and
callable:

* the body is attached exactly when the callable is known, both leave a value
  or neither does, they take equally many arguments, and the callable is
  static, or declared on an adapter of the shape of the method's own
  parameter types and of what the callable leaves, or may go unbound;
* there is no plan exactly when one of the first three fails, and the fault
  is that of the first one; then the same fault refuses the body;
* else the plan tells how the receiver comes about, and the body is refused
  only if the callable is unbound and the policy rejects that;
* neither the policy nor the boxing of values changes the plan;
* two methods of the same parameter types that both leave a value, or both do
  not, have the same plans and get a body or not together;
* a plan for the invoker of an adapter binds an adapter exactly when the
  method has the parameter types of the invoker;
* over a shared registry a method can be shaped after every callable that is
  static or the invoker of an adapter.

The shape that is asked for is an action over the method's parameter types if
the callable leaves nothing, and else the function that gives what it leaves. -/
theorem acceptance_determined (f : Forwarder) (m : Method) (c : CallableName) :
    let required (target : Callable) : Shape :=
      match target.returns with
      | .void => .action m.parameterTypes
      | .value result => .function m.parameterTypes result
    ((f.forward m c).result = .ok () ↔
      ∃ target, f.registry.callable? c = some target ∧
        m.returns.isVoid = target.returns.isVoid ∧
        m.parameters.length = target.parameters.length ∧
        (target.isStatic = true ∨ target.owner = .adapter (required target) ∨
          f.policy = .nullReceiver)) ∧
    (∀ fault, (f.plan m c).result = .error fault ↔
      f.registry.callable? c = none ∧ fault = .unknownCallable c ∨
      ∃ target, f.registry.callable? c = some target ∧
        (m.returns.isVoid ≠ target.returns.isVoid ∧
            fault = .returnMismatch m.returns c target.returns ∨
          m.returns.isVoid = target.returns.isVoid ∧
            m.parameters.length ≠ target.parameters.length ∧
            fault = .countMismatch m.parameters.length c target.parameters.length)) ∧
    (∀ fault, (f.forward m c).result = .error fault ↔
      (f.plan m c).result = .error fault ∨
      ∃ p required owner, (f.plan m c).result = .ok p ∧ p.receiver = .unbound required owner ∧
        f.policy = .reject ∧ fault = .unbindable c required owner) ∧
    (∀ p, (f.plan m c).result = .ok p ↔
      ∃ target, f.registry.callable? c = some target ∧
        m.returns.isVoid = target.returns.isVoid ∧
        m.parameters.length = target.parameters.length ∧
        p.callable = c ∧ p.parameters = m.parameterTypes ∧
        p.returnsValue = !target.returns.isVoid ∧
        p.receiver =
          if target.isStatic = true then .static
          else if target.owner = .adapter (required target) then .adapter (required target)
          else .unbound (required target) target.owner) ∧
    (∀ g : Forwarder, g.registry = f.registry → g.plan m c = f.plan m c) ∧
    (∀ n : Method, n.returns.isVoid = m.returns.isVoid → n.parameterTypes = m.parameterTypes →
      ((f.forward n c).result = .ok () ↔ (f.forward m c).result = .ok ()) ∧
        ∀ p, (f.plan n c).result = .ok p ↔ (f.plan m c).result = .ok p) ∧
    (∀ name ps r p, f.registry.callable? c = some (.ofAdapter name ps r) →
      (f.plan m c).result = .ok p →
      ((∃ shape, p.receiver = .adapter shape) ↔ m.parameterTypes = ps)) ∧
    ∀ (b : Blueprint) (target : Callable), b.registry = f.registry →
      f.registry.callable? c = some target →
      (target.isStatic = true ∨ ∃ name ps r, target = .ofAdapter name ps r) →
      (b.perform (.forwarding f c [])).result = .ok (.declared ⟨b.methods.length, none⟩) ∧
        ∃ new, (b.perform (.forwarding f c [])).state.methods = b.methods ++ [new] ∧
          new.hasBody = true := by
  intro required
  have hrequired (target : Callable) :
      required target = .ofSignature m.parameterTypes target.returns := by
    unfold required
    cases target.returns <;> rfl
  simp only [hrequired]
  refine ⟨f.result_forward_iff m c, ?_, f.result_forward_eq_error_iff m c,
    f.result_plan_eq_ok_iff m c, ?_, ?_, ?_, ?_⟩
  · intro fault
    rw [result_plan]
    exact Plan.make_eq_error_iff f.registry m c fault
  · intro g hg
    unfold plan
    rw [hg]
  · intro n hvoid htypes
    refine ⟨result_forward_congr hvoid htypes, fun p => ?_⟩
    rw [result_plan, result_plan]
    exact Plan.make_eq_ok_congr hvoid htypes p
  · intro name ps r p hknown hp
    rw [result_plan] at hp
    obtain ⟨target, htarget, -, -, rfl⟩ := (Plan.make_eq_ok_iff ..).mp hp
    obtain rfl := Option.some.inj (hknown.symm.trans htarget)
    exact Receiver.choose_ofAdapter_iff name ps r m.parameterTypes
  · intro b target hshared hknown h
    refine Blueprint.declared_forwarding hshared hknown (h.imp_right ?_)
    rintro ⟨name, ps, r, rfl⟩
    rfl

end Forwarder

end TypeSynthesis
