/-
TypeSynthesis.Proofs.BlueprintEffects — what an operation can do to a
blueprint.

There are thirteen operations, and most of what holds of a blueprint after
any history follows from what a single one of them can do. That is said
here once.

* `perform_markSealed`, `perform_extend`, … — the operations on the type
  itself as equations, and when they are refused.
* `declaring`, `perform_method`, … — a declaration gives what the chain of
  its steps gives.
* `Effect` — everything that an operation can do, with what must hold
  before it and what it tells; `effect` — it does one of these.
-/
import Mathlib.Data.List.Basic
import TypeSynthesis.Blueprint.Operation
import TypeSynthesis.Proofs.MemberAtomicity

namespace TypeSynthesis

/-- The type can be inherited: it is known, unsealed and no interface. -/
def Registry.inheritable (r : Registry) (t : TypeName) : Bool :=
  (r.type? t).any fun info => !info.isInterface && !info.isSealed

namespace Blueprint

/-! ## The type itself -/

theorem perform_markAbstract (b : Blueprint) :
    b.perform .markAbstract =
      if b.isSealed then .refuse .sealedNotAbstract b
      else .accept .done { b with isAbstract := true } [.markedAbstract b.displayName] := by
  cases h : b.isSealed <;> simp [perform, markAbstract, h] <;> rfl

theorem perform_markSealed (b : Blueprint) :
    b.perform .markSealed =
      if b.isAbstract then .refuse .abstractNotSealed b
      else .accept .done { b with isSealed := true } [.markedSealed b.displayName] := by
  cases h : b.isAbstract <;> simp [perform, markSealed, h] <;> rfl

/-- What can be inherited becomes the base, unless there is one; nothing
else does. -/
theorem perform_extend {b : Blueprint} {t : TypeName} (h : b.registry.inheritable t = true) :
    b.perform (.extend t) =
      match b.base with
      | none => .accept .done { b with base := some t } [.extended b.displayName t]
      | some present =>
        if present = t then .accept .done b [] else .refuse (.secondBase present t) b := by
  unfold Registry.inheritable at h
  simp only [perform, extend]
  cases hinfo : b.registry.type? t with
  | none => simp [hinfo] at h
  | some info =>
    obtain ⟨hi, hs⟩ : info.isInterface = false ∧ info.isSealed = false := by simpa [hinfo] using h
    simp only [hi, hs]
    cases b.base with
    | none => rfl
    | some present => by_cases hp : present = t <;> simp [hp] <;> rfl

theorem refuses_extend {b : Blueprint} {t : TypeName} (h : b.registry.inheritable t = false) :
    ∃ fault, b.perform (.extend t) = .refuse fault b := by
  unfold Registry.inheritable at h
  simp only [perform, extend]
  cases hinfo : b.registry.type? t with
  | none => exact ⟨_, rfl⟩
  | some info =>
    cases hi : info.isInterface with
    | true => exact ⟨.baseIsInterface t, by simp [hi]; rfl⟩
    | false =>
      have hs : info.isSealed = true := by simpa [hinfo, hi] using h
      exact ⟨.baseIsSealed t, by simp [hi, hs]; rfl⟩

theorem perform_implement {b : Blueprint} {t : TypeName} (h : b.registry.isInterface t = true) :
    b.perform (.implement t) =
      if t ∈ b.interfaces then .accept .done b []
      else
        .accept .done { b with interfaces := b.interfaces ++ [t] }
          [.implemented b.displayName t] := by
  unfold Registry.isInterface at h
  simp only [perform, implement]
  cases hinfo : b.registry.type? t with
  | none => simp [hinfo] at h
  | some info =>
    have hi : info.isInterface = true := by simpa [hinfo] using h
    by_cases hm : t ∈ b.interfaces <;> simp [hi, hm] <;> rfl

theorem refuses_implement {b : Blueprint} {t : TypeName} (h : b.registry.isInterface t = false) :
    ∃ fault, b.perform (.implement t) = .refuse fault b := by
  unfold Registry.isInterface at h
  simp only [perform, implement]
  cases hinfo : b.registry.type? t with
  | none => exact ⟨_, rfl⟩
  | some info =>
    have hi : info.isInterface = false := by simpa [hinfo] using h
    exact ⟨.notAnInterface t, by simp [hi]; rfl⟩

/-! ## Declarations -/

/-- The constructor that a declaration starts from. -/
def newConstructor (b : Blueprint) (scope : Option Scope) : Constructor :=
  ⟨b.constructors.length, scope.getD .anywhere, []⟩

/-- The method that a declaration starts from. -/
def newMethod (b : Blueprint) (name : Option String) (returns : ReturnKind)
    (parameters : List Parameter) : Method :=
  ⟨b.methods.length, name, returns, parameters, .ownType, none⟩

/-- The method that is shaped after a callable. -/
def shapedMethod (b : Blueprint) (target : Callable) : Method :=
  b.newMethod (some target.name.text) target.returns
    (target.parameters.mapIdx fun i t => .numbered (i + 1) t)

/-- The property that a declaration starts from. -/
def newProperty (b : Blueprint) (type : TypeName) (name : Option String) (scope : Option Scope) :
    Property :=
  .readWrite b.properties.length type name (scope.getD b.visibility)

def withConstructor (b : Blueprint) (c : Constructor) : Blueprint :=
  { b with constructors := b.constructors ++ [c] }

def withMethod (b : Blueprint) (m : Method) : Blueprint := { b with methods := b.methods ++ [m] }

def withProperty (b : Blueprint) (p : Property) : Blueprint :=
  { b with properties := b.properties ++ [p] }

/-- What a declaration gives whose new member went through a chain of steps. -/
def declaring {σ : Type} (number : Nat) (add : σ → Blueprint) (told : Journal) (c : Chain σ) :
    Outcome Blueprint Reply :=
  .accept (.declared ⟨number, c.stopped⟩) (add c.state) (told ++ c.told)

variable {b : Blueprint}

theorem perform_constructor (b : Blueprint) (scope : Option Scope) (steps : List Constructor.Step) :
    b.perform (.constructor scope steps) =
      declaring b.constructors.length b.withConstructor []
        (Chain.run (Constructor.perform b.registry) (b.newConstructor scope) steps) := rfl

theorem perform_method {returns : ReturnKind} {parameters : List Parameter}
    (h : b.firstUnknown? (mentions returns parameters) = none) (name : Option String)
    (steps : List Method.Step) :
    b.perform (.method name returns parameters steps) =
      declaring b.methods.length b.withMethod []
        (Chain.run Method.perform (b.newMethod name returns parameters) steps) := by
  simp only [perform, declareMethod, h]
  rfl

theorem perform_forwarding {f : Forwarder} {c : CallableName} {target : Callable}
    (hc : b.registry.callable? c = some target)
    (h : (f.forward (b.shapedMethod target) c).result = .ok ()) (steps : List Method.Step) :
    b.perform (.forwarding f c steps) =
      declaring b.methods.length b.withMethod (f.forward (b.shapedMethod target) c).told
        (Chain.run Method.perform (f.forward (b.shapedMethod target) c).state steps) := by
  have hid : (f.forward (b.shapedMethod target) c).state.id = b.methods.length :=
    (Method.perform_keeps (b.shapedMethod target) (.forward f c)).1
  rw [← hid]
  simp only [shapedMethod, newMethod] at h ⊢
  simp only [perform, declareForwarding, hc, h]
  rfl

/-- A method whose body is refused is not declared. -/
theorem perform_forwarding_of_error {f : Forwarder} {c : CallableName} {target : Callable}
    {fault : Fault} (hc : b.registry.callable? c = some target)
    (h : (f.forward (b.shapedMethod target) c).result = .error fault) (steps : List Method.Step) :
    b.perform (.forwarding f c steps) =
      ⟨.error fault, b, (f.forward (b.shapedMethod target) c).told⟩ := by
  simp only [shapedMethod, newMethod] at h ⊢
  simp only [perform, declareForwarding, hc, h]
  rfl

theorem perform_property {type : TypeName} (h : b.firstUnknown? [(.property, type)] = none)
    (name : Option String) (scope : Option Scope) (steps : List Property.Step) :
    b.perform (.property type name scope steps) =
      declaring b.properties.length b.withProperty []
        (Chain.run Property.perform (b.newProperty type name scope) steps) := by
  simp only [perform, declareProperty, h]
  rfl

end Blueprint

/-! ## Methods that are declared -/

/-- The step that an operation takes on a method that is declared already,
and the id of the method. -/
def Operation.stepOn? : Operation → Option (Nat × Method.Step)
  | .rescopeMethod id scope => some (id, .rescope scope)
  | .forward f (some id) c => some (id, .forward f c)
  | .attach (some id) (some body) => some (id, .attach body)
  | _ => none

namespace Blueprint

variable {b : Blueprint} {id : Nat} {m : Method}

theorem perform_rescopeMethod_of_missing (h : b.methods[id]? = none) (scope : Scope) :
    b.perform (.rescopeMethod id scope) = .accept (.exists false) b [] := by
  have hlength : ¬id < b.methods.length := by simpa using h
  rw [perform, rescopeMethod, List.modify_eq_set_getElem?, h, decide_eq_false hlength]
  rfl

theorem perform_rescopeMethod_of_found (h : b.methods[id]? = some m) (scope : Scope) :
    b.perform (.rescopeMethod id scope) =
      .accept (.exists true)
        { b with methods := b.methods.set id { m with visibility := scope } } [] := by
  obtain ⟨hlength, -⟩ := List.getElem?_eq_some_iff.mp h
  rw [perform, rescopeMethod, List.modify_eq_set_getElem?, h, decide_eq_true hlength]
  rfl

/-! ## Everything that an operation can do -/

/-- What an operation on a blueprint can give. -/
inductive Effect (b : Blueprint) : Operation → Outcome Blueprint Reply → Prop where
  | refused {op : Operation} {fault : Fault} {told : Journal} (quiet : told.atLeast .debug = []) :
      Effect b op ⟨.error fault, b, told⟩
  | rename (name : String) : Effect b (.rename name) (.accept .done { b with name := some name } [])
  | rescope (scope : Scope) :
      Effect b (.rescope scope) (.accept .done { b with visibility := scope } [])
  | markAbstract (h : b.isSealed = false) :
      Effect b .markAbstract
        (.accept .done { b with isAbstract := true } [.markedAbstract b.displayName])
  | markSealed (h : b.isAbstract = false) :
      Effect b .markSealed (.accept .done { b with isSealed := true } [.markedSealed b.displayName])
  | extend {t : TypeName} (inheritable : b.registry.inheritable t = true) (h : b.base = none) :
      Effect b (.extend t) (.accept .done { b with base := some t } [.extended b.displayName t])
  | extendAgain {t : TypeName} (inheritable : b.registry.inheritable t = true)
      (h : b.base = some t) :
      Effect b (.extend t) (.accept .done b [])
  | implement {t : TypeName} (interface : b.registry.isInterface t = true) (h : t ∉ b.interfaces) :
      Effect b (.implement t)
        (.accept .done { b with interfaces := b.interfaces ++ [t] } [.implemented b.displayName t])
  | implementAgain {t : TypeName} (interface : b.registry.isInterface t = true)
      (h : t ∈ b.interfaces) :
      Effect b (.implement t) (.accept .done b [])
  | constructor (scope : Option Scope) (steps : List Constructor.Step) :
      Effect b (.constructor scope steps)
        (declaring b.constructors.length b.withConstructor []
          (Chain.run (Constructor.perform b.registry) (b.newConstructor scope) steps))
  | method {name : Option String} {returns : ReturnKind} {parameters : List Parameter}
      {steps : List Method.Step} (known : b.firstUnknown? (mentions returns parameters) = none) :
      Effect b (.method name returns parameters steps)
        (declaring b.methods.length b.withMethod []
          (Chain.run Method.perform (b.newMethod name returns parameters) steps))
  | forwarding {f : Forwarder} {c : CallableName} {steps : List Method.Step} {target : Callable}
      (known : b.registry.callable? c = some target)
      (attached : (f.forward (b.shapedMethod target) c).result = .ok ()) :
      Effect b (.forwarding f c steps)
        (declaring b.methods.length b.withMethod (f.forward (b.shapedMethod target) c).told
          (Chain.run Method.perform (f.forward (b.shapedMethod target) c).state steps))
  | property {type : TypeName} {name : Option String} {scope : Option Scope}
      {steps : List Property.Step} (known : b.firstUnknown? [(.property, type)] = none) :
      Effect b (.property type name scope steps)
        (declaring b.properties.length b.withProperty []
          (Chain.run Property.perform (b.newProperty type name scope) steps))
  | step {op : Operation} {id : Nat} {m : Method} {reply : Reply} (step : Method.Step)
      (on : op.stepOn? = some (id, step)) (found : b.methods[id]? = some m)
      (granted : (m.perform step).result = .ok ()) (nothing_new : ∀ d, reply ≠ .declared d) :
      Effect b op (.accept reply { b with methods := b.methods.set id (m.perform step).state }
        (m.perform step).told)
  | absent {id : Nat} {scope : Scope} (missing : b.methods[id]? = none) :
      Effect b (.rescopeMethod id scope) (.accept (.exists false) b [])

/-- An act on a declared method is refused, or does what the act does. -/
theorem effect_onMethod {op : Operation} {id : Option Nat} {act : Method → Outcome Method Unit}
    (atomic : ∀ m, (act m).Atomic m)
    (granted : ∀ i m, id = some i → b.methods[i]? = some m → (act m).result = .ok () →
      b.Effect op
        (.accept .done { b with methods := b.methods.set i (act m).state } (act m).told)) :
    b.Effect op ((b.onMethod id act).map fun _ => .done) := by
  cases id with
  | none => exact .refused rfl
  | some i =>
    cases hm : b.methods[i]? with
    | none =>
      simp only [onMethod, method?, hm]
      exact .refused rfl
    | some m =>
      simp only [onMethod, method?, hm]
      cases hr : (act m).result with
      | error fault =>
        -- The refused method is put back where it was, which changes nothing.
        obtain ⟨hstate, hquiet⟩ := atomic m fault hr
        obtain ⟨hi, rfl⟩ := List.getElem?_eq_some_iff.mp hm
        rw [hstate, List.set_getElem_self]
        exact .refused hquiet
      | ok u => exact granted i m rfl hm hr

theorem effect_forwarding (b : Blueprint) (f : Forwarder) (c : CallableName)
    (steps : List Method.Step) :
    b.Effect (.forwarding f c steps) (b.perform (.forwarding f c steps)) := by
  cases hc : b.registry.callable? c with
  | none =>
    simp only [perform, declareForwarding, hc]
    exact .refused rfl
  | some target =>
    cases hr : (f.forward (b.shapedMethod target) c).result with
    | error fault =>
      obtain ⟨-, hquiet⟩ := f.atomic_forward (b.shapedMethod target) c fault hr
      rw [perform_forwarding_of_error hc hr]
      exact .refused hquiet
    | ok u =>
      rw [perform_forwarding hc hr]
      exact .forwarding hc hr

/-- **An operation does one of these things.** -/
theorem effect (b : Blueprint) (op : Operation) : b.Effect op (b.perform op) := by
  cases op with
  | rename name => exact .rename name
  | rescope scope => exact .rescope scope
  | constructor scope steps => exact .constructor scope steps
  | forwarding f c steps => exact b.effect_forwarding f c steps
  | markAbstract =>
    rw [perform_markAbstract]
    split
    · exact .refused rfl
    · exact .markAbstract (by simpa using ‹¬b.isSealed = true›)
  | markSealed =>
    rw [perform_markSealed]
    split
    · exact .refused rfl
    · exact .markSealed (by simpa using ‹¬b.isAbstract = true›)
  | extend t =>
    cases ht : b.registry.inheritable t with
    | false =>
      obtain ⟨fault, hrefused⟩ := refuses_extend ht
      rw [hrefused]
      exact .refused rfl
    | true =>
      rw [perform_extend ht]
      cases hb : b.base with
      | none => exact .extend ht hb
      | some present =>
        by_cases hp : present = t
        · simp only [hp, if_true]
          exact .extendAgain ht (hp ▸ hb)
        · simp only [hp, if_false]
          exact .refused rfl
  | implement t =>
    cases ht : b.registry.isInterface t with
    | false =>
      obtain ⟨fault, hrefused⟩ := refuses_implement ht
      rw [hrefused]
      exact .refused rfl
    | true =>
      rw [perform_implement ht]
      by_cases hm : t ∈ b.interfaces
      · rw [if_pos hm]
        exact .implementAgain ht hm
      · rw [if_neg hm]
        exact .implement ht hm
  | method name returns parameters steps =>
    cases hknown : b.firstUnknown? (mentions returns parameters) with
    | none =>
      rw [perform_method hknown]
      exact .method hknown
    | some fault =>
      simp only [perform, declareMethod, hknown]
      exact .refused rfl
  | property type name scope steps =>
    cases hknown : b.firstUnknown? [(.property, type)] with
    | none =>
      rw [perform_property hknown]
      exact .property hknown
    | some fault =>
      simp only [perform, declareProperty, hknown]
      exact .refused rfl
  | rescopeMethod id scope =>
    cases hm : b.methods[id]? with
    | none =>
      rw [perform_rescopeMethod_of_missing hm]
      exact .absent hm
    | some m =>
      rw [perform_rescopeMethod_of_found hm]
      exact .step (.rescope scope) rfl hm rfl (by simp)
  | forward f id c =>
    refine effect_onMethod (fun m => f.atomic_forward m c) fun i m hi hm hgranted => ?_
    subst hi
    exact .step (.forward f c) rfl hm hgranted (by simp)
  | attach id body =>
    cases body with
    | none =>
      refine effect_onMethod (Outcome.atomic_refuse _) fun i m _ _ hgranted => ?_
      cases hgranted
    | some body =>
      refine effect_onMethod (fun m => Outcome.atomic_of_ok rfl m) fun i m hi hm hgranted => ?_
      subst hi
      exact .step (.attach body) rfl hm hgranted (by simp)

/-- The registry never changes. -/
theorem registry_perform (b : Blueprint) (op : Operation) :
    (b.perform op).state.registry = b.registry := by
  have heffect := b.effect op
  generalize b.perform op = o at heffect
  cases heffect <;> rfl

end Blueprint

end TypeSynthesis
