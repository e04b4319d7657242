/-
TypeSynthesis.Proofs.ShapedMethods — two ways to shape a method after a
callable.

A method can take the shape of a callable in one operation, which attaches
the body first and adds the method then. Or it is declared with the name and
the signature of the callable, and the body is attached to it afterwards. As
long as the types are known both give the same type, and the same fault when
no body can be attached; only the second way then leaves a method behind.

* `perform_method_shaped_of_error`, `perform_method_shaped_of_ok` — the second
  way, when the body is refused and when it is attached.
* `shaped_either_way` — the two ways side by side.
-/
import TypeSynthesis.Proofs.ForwardAcceptance
import TypeSynthesis.Proofs.RegistryHistory

namespace TypeSynthesis

/-! ## Two ways -/

namespace Blueprint

variable {b : Blueprint} {f : Forwarder} {c : CallableName} {target : Callable} {fault : Fault}

/-- The parameters that a method takes over from a callable. -/
def shapedParameters (target : Callable) : List Parameter :=
  target.parameters.mapIdx fun i t => .numbered (i + 1) t

/-- A declaration that names the signature of a callable starts from the
method that is shaped after it. -/
theorem perform_method_shaped (hname : target.name = c)
    (htypes : b.registry.KnowsAll target.signatureTypes) (steps : List Method.Step) :
    b.perform (.method (some c.text) target.returns (shapedParameters target) steps) =
      declaring b.methods.length b.withMethod []
        (Chain.run Method.perform (b.shapedMethod target) steps) := by
  have hknown : b.firstUnknown? (mentions target.returns (shapedParameters target)) = none := by
    rw [firstUnknown?_eq_none_iff, types_mentions]
    show b.registry.KnowsAll (b.shapedMethod target).signatureTypes
    rwa [types_shapedMethod]
  rw [perform_method hknown, ← hname]
  rfl

/-- A body that is refused stops the second way at its first step, behind the
declaration. -/
theorem perform_method_shaped_of_error (hname : target.name = c)
    (htypes : b.registry.KnowsAll target.signatureTypes)
    (h : (f.forward (b.shapedMethod target) c).result = .error fault) :
    b.perform (.method (some c.text) target.returns (shapedParameters target) [.forward f c]) =
      .accept (.declared ⟨b.methods.length, some (0, fault)⟩)
        (b.withMethod (b.shapedMethod target)) (f.forward (b.shapedMethod target) c).told := by
  have hstep : ((b.shapedMethod target).perform (.forward f c)).result = .error fault := h
  have hstate : ((b.shapedMethod target).perform (.forward f c)).state = b.shapedMethod target :=
    Forwarder.state_forward_of_error h
  rw [perform_method_shaped hname htypes, Chain.run_cons_error hstep, hstate]
  rfl

/-- A body that is attached makes the second way the first. -/
theorem perform_method_shaped_of_ok (hname : target.name = c)
    (hknown : b.registry.callable? c = some target)
    (htypes : b.registry.KnowsAll target.signatureTypes)
    (h : (f.forward (b.shapedMethod target) c).result = .ok ()) :
    b.perform (.method (some c.text) target.returns (shapedParameters target) [.forward f c]) =
      b.perform (.forwarding f c []) := by
  have hstep : ((b.shapedMethod target).perform (.forward f c)).result = .ok () := h
  rw [perform_method_shaped hname htypes, Chain.run_cons_ok hstep, perform_forwarding hknown h]
  rfl

/-- **Both ways give the same.** Let a type know a callable and all types that
this mentions, and let a forwarder know whatever it does. To shape a method
after the callable in one operation succeeds exactly when the body can be
attached to a method that is declared with the name, the return kind and the
parameter types of the callable, and with the parameter names `arg1`, `arg2`
and so on; and else the fault is the same. On success the types are equal in
everything, the bodies of their methods included, and have one method more,
with that name, these parameters and a body. On failure the one operation
leaves the type as it was, and the other way leaves it with exactly one
method more, without a body. -/
theorem shaped_either_way (regs : List Registration) (b : Blueprint) (f : Forwarder)
    (c : CallableName) (target : Callable)
    (hregistry : b.registry = Registry.initial.recordAll regs)
    (hknown : b.registry.callable? c = some target)
    (htypes : b.registry.KnowsAll target.signatureTypes) :
    let parameters : List Parameter := target.parameters.mapIdx fun i t =>
      ⟨"arg" ++ toString (i + 1), t, Parameter.isBlank_append_eq_false (by decide) _⟩
    let once := b.perform (.forwarding f c [])
    let twice := b.perform (.method (some c.text) target.returns parameters [.forward f c])
    let id := b.methods.length
    (once.result = .ok (.declared ⟨id, none⟩) ↔ twice.result = .ok (.declared ⟨id, none⟩)) ∧
    (∀ fault, once.result = .error fault ↔
      twice.result = .ok (.declared ⟨id, some (0, fault)⟩)) ∧
    ((once.result = .ok (.declared ⟨id, none⟩) ∧ once.state = twice.state ∧
        ∃ m, once.state = { b with methods := b.methods ++ [m] } ∧ m.name = some c.text ∧
          m.returns = target.returns ∧ m.parameters = parameters ∧ m.hasBody = true) ∨
      ∃ fault, once.result = .error fault ∧ once.state = b ∧
        ∃ m, twice.state = { b with methods := b.methods ++ [m] } ∧ m.body = none) := by
  intro parameters once twice id
  have hname : target.name = c := Registry.name_of_callable? (hregistry ▸ hknown)
  cases hr : (f.forward (b.shapedMethod target) c).result with
  | error fault =>
    have honce : once = ⟨.error fault, b, (f.forward (b.shapedMethod target) c).told⟩ :=
      perform_forwarding_of_error hknown hr []
    have htwice : twice = .accept (.declared ⟨id, some (0, fault)⟩)
        (b.withMethod (b.shapedMethod target)) (f.forward (b.shapedMethod target) c).told :=
      perform_method_shaped_of_error hname htypes hr
    rw [honce, htwice]
    refine ⟨by simp, by simp, .inr ⟨fault, rfl, rfl, b.shapedMethod target, rfl, rfl⟩⟩
  | ok u =>
    have hsame : twice = once := perform_method_shaped_of_ok hname hknown htypes hr
    have honce : once = declaring id b.withMethod (f.forward (b.shapedMethod target) c).told
        (Chain.run Method.perform (f.forward (b.shapedMethod target) c).state []) :=
      perform_forwarding hknown hr []
    obtain ⟨p, hstate⟩ := Forwarder.state_forward_of_ok hr
    rw [hsame, honce, hstate, ← hname]
    exact ⟨Iff.rfl, by simp [declaring], .inl ⟨rfl, rfl, _, rfl, rfl, rfl, rfl, rfl⟩⟩

/-- A callable that says a text. -/
def speaker : Callable :=
  .staticMethod ⟨"Say"⟩ Primitive.object.typeName [Primitive.string.typeName] .void

/-- A type knows the callable, a forwarder does not. -/
theorem shaped_either_way_unheard :
    let b := Blueprint.new (Registry.initial.recordAll [.callable speaker])
    let f := Forwarder.standard .initial
    (b.perform (.forwarding f ⟨"Say"⟩ [])).result = .error (.unknownCallable ⟨"Say"⟩) ∧
      (b.perform (.method (some "Say") .void [⟨"arg1", Primitive.string.typeName, by decide⟩]
        [.forward f ⟨"Say"⟩])).result =
          .ok (.declared ⟨0, some (0, .unknownCallable ⟨"Say"⟩)⟩) := by
  intro b f
  have honce : (b.perform (.forwarding f ⟨"Say"⟩ [])).result =
      .error (.unknownCallable ⟨"Say"⟩) := rfl
  obtain ⟨-, hfault, -⟩ :=
    shaped_either_way [.callable speaker] b f ⟨"Say"⟩ speaker rfl rfl (by decide)
  exact ⟨honce, (hfault _).mp honce⟩

end Blueprint

end TypeSynthesis
