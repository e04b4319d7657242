/-
TypeSynthesis.Proofs.PartIndependence — the parts of a type do not meet.

A blueprint has eight parts, and every operation is about one of them. It
leaves the others as they are, and what it makes of its own depends on that
part alone — with one exception: a property that is declared without a scope
borrows the one that the type has at that moment. So a history is made of
eight that could as well have taken place each on a type of its own.

* `Operation.part`, `Blueprint.only` — the part that an operation is about,
  and the blueprint with nothing but one part.
* `Blueprint.lends?`, `Operation.given` — the one exception, and the
  operation that need not borrow.
* `only_perform_of_ne`, `only_perform` — an operation and the other parts, an
  operation and its own.
* `only_performAll` — what a history makes of a part.
* `accessors_scope` — the scopes of a property, borrowed or not.
* `parts_independent` — any two histories.
-/
import TypeSynthesis.Proofs.HeaderHistory

namespace TypeSynthesis

/-! ## Parts -/

/-- The parts of a blueprint. -/
inductive Part where
  | name
  | scope
  | marks
  | base
  | interfaces
  | constructors
  | methods
  | properties
  deriving DecidableEq, Repr

namespace Operation

/-- The part that the operation is about. -/
def part : Operation → Part
  | .rename _ => .name
  | .rescope _ => .scope
  | .markAbstract | .markSealed => .marks
  | .extend _ => .base
  | .implement _ => .interfaces
  | .constructor _ _ => .constructors
  | .method _ _ _ _ | .forwarding _ _ _ | .rescopeMethod _ _ | .forward _ _ _ | .attach _ _ =>
    .methods
  | .property _ _ _ _ => .properties

/-- The declaration of a property with a scope, if one is given and it has
none of its own. -/
def given : Operation → Option Scope → Operation
  | .property type name none steps, scope => .property type name scope steps
  | op, _ => op

theorem part_given (op : Operation) (scope : Option Scope) : (op.given scope).part = op.part := by
  cases op with
  | property type name own steps => cases own <;> rfl
  | _ => rfl

end Operation

namespace Blueprint

/-- The blueprint with nothing but one part. -/
def only (p : Part) (b : Blueprint) : Blueprint :=
  let bare := ofScope b.registry .assembly
  match p with
  | .name => { bare with name := b.name }
  | .scope => { bare with visibility := b.visibility }
  | .marks => { bare with isSealed := b.isSealed, isAbstract := b.isAbstract }
  | .base => { bare with base := b.base }
  | .interfaces => { bare with interfaces := b.interfaces }
  | .constructors => { bare with constructors := b.constructors }
  | .methods => { bare with methods := b.methods }
  | .properties => { bare with properties := b.properties }

/-- The scope that the type lends to the operation: a property takes it when
it is declared without one. -/
def lends? (b : Blueprint) : Operation → Option Scope
  | .property _ _ none _ => some b.visibility
  | _ => none

variable {b c : Blueprint} {op : Operation} {p : Part}

/-- An operation that was given what it borrows has nothing to borrow. -/
theorem lends?_given (b c : Blueprint) (op : Operation) :
    c.lends? (op.given (b.lends? op)) = none := by
  cases op with
  | property type name scope steps => cases scope <;> rfl
  | _ => rfl

theorem perform_given (b : Blueprint) (op : Operation) :
    b.perform (op.given (b.lends? op)) = b.perform op := by
  cases op with
  | property type name scope steps => cases scope <;> rfl
  | _ => rfl

/-! ## One operation -/

/-- An operation leaves the other parts as they are. -/
theorem only_perform_of_ne (h : op.part ≠ p) : (b.perform op).state.only p = b.only p := by
  have heffect := b.effect op
  generalize b.perform op = o at heffect
  cases heffect with
  | @step op id m reply step on =>
    have hmethods : op.part = .methods := by
      cases op <;> first | rfl | cases on
    cases p <;> first | rfl | exact absurd hmethods h
  | _ => cases p <;> first | rfl | exact absurd rfl h

/-- An act on a method of that id reads no other part. -/
theorem only_onMethod (b : Blueprint) (id : Option Nat) (act : Method → Outcome Method Unit) :
    (b.onMethod id act).state.only .methods =
      ((b.only .methods).onMethod id act).state.only .methods := by
  cases id with
  | none => rfl
  | some i =>
    have hmethod : (b.only .methods).method? i = b.method? i := rfl
    simp only [onMethod, hmethod]
    cases b.method? i <;> rfl

/-- What an operation makes of its part depends on that part alone, if it
borrows nothing. -/
theorem only_perform_of_lends (h : b.lends? op = none) :
    (b.perform op).state.only op.part = ((b.only op.part).perform op).state.only op.part := by
  cases op with
  | rename name => rfl
  | rescope scope => rfl
  | constructor scope steps => rfl
  | rescopeMethod id scope => rfl
  | forward f id c => exact b.only_onMethod id _
  | attach id body => exact b.only_onMethod id _
  | markAbstract =>
    have hsealed : (b.only .marks).isSealed = b.isSealed := rfl
    simp only [Operation.part, perform_markAbstract, hsealed]
    split <;> rfl
  | markSealed =>
    have habstract : (b.only .marks).isAbstract = b.isAbstract := rfl
    simp only [Operation.part, perform_markSealed, habstract]
    split <;> rfl
  | extend t =>
    simp only [only, Operation.part, registry_perform, base_perform]
    rfl
  | implement t =>
    simp only [only, Operation.part, registry_perform, interfaces_perform]
    rfl
  | method name returns parameters steps =>
    have hunknown : (b.only .methods).firstUnknown? (mentions returns parameters) =
        b.firstUnknown? (mentions returns parameters) := rfl
    simp only [perform, declareMethod, Operation.part, hunknown]
    cases b.firstUnknown? (mentions returns parameters) <;> rfl
  | forwarding f c steps =>
    have hregistry : (b.only .methods).registry = b.registry := rfl
    have hmethods : (b.only .methods).methods = b.methods := rfl
    simp only [perform, declareForwarding, Operation.part, hregistry, hmethods]
    cases b.registry.callable? c with
    | none => rfl
    | some target =>
      simp only []
      split <;> rfl
  | property type name scope steps =>
    cases scope with
    | none => cases h
    | some scope =>
      have hunknown : (b.only .properties).firstUnknown? [(.property, type)] =
          b.firstUnknown? [(.property, type)] := rfl
      simp only [perform, declareProperty, Operation.part, hunknown]
      cases b.firstUnknown? [(.property, type)] <;> rfl

/-- **What an operation makes of its part** depends on that part and on what
it borrows. -/
theorem only_perform (h : b.only op.part = c.only op.part) :
    (b.perform op).state.only op.part =
      (c.perform (op.given (b.lends? op))).state.only op.part := by
  have hb := only_perform_of_lends (lends?_given b b op)
  have hc := only_perform_of_lends (lends?_given b c op)
  rw [Operation.part_given] at hb hc
  rw [← perform_given, hb, hc, h]

/-! ## Histories -/

/-- The operations of a history that are about a part, with what they
borrow. -/
def calls (p : Part) (b : Blueprint) : List Operation → List (Operation × Option Scope)
  | [] => []
  | op :: rest =>
    let later := (b.perform op).state.calls p rest
    if op.part = p then (op, b.lends? op) :: later else later

/-- Only properties borrow. -/
theorem calls_of_ne (h : p ≠ .properties) (b : Blueprint) (ops : List Operation) :
    b.calls p ops = (ops.filter (·.part = p)).map (·, none) := by
  induction ops generalizing b with
  | nil => rfl
  | cons op rest ih =>
    by_cases hop : op.part = p
    · have hlends : b.lends? op = none := by
        cases op with
        | property => exact absurd hop.symm h
        | _ => rfl
      simp [calls, hop, ih, hlends]
    · simp [calls, hop, ih]

/-- **What a history makes of a part** is what its operations for that part
make of it by themselves. -/
theorem only_performAll (h : b.only p = c.only p) (ops : List Operation) :
    (b.performAll ops).1.only p =
      (c.performAll ((b.calls p ops).map fun call => call.1.given call.2)).1.only p := by
  induction ops generalizing b c with
  | nil => exact h
  | cons op rest ih =>
    by_cases hop : op.part = p
    · subst hop
      simp only [performAll, calls, if_true, List.map_cons]
      exact ih (only_perform h)
    · simp only [performAll, calls, if_neg hop]
      exact ih ((only_perform_of_ne hop).trans h)

/-- Two histories that ask the same of a part make the same of it. -/
theorem only_eq_of_calls (hstart : b.only p = c.only p) {ops others : List Operation}
    (h : b.calls p ops = c.calls p others) :
    (b.performAll ops).1.only p = (c.performAll others).1.only p := by
  calc (b.performAll ops).1.only p
    _ = (b.performAll ((b.calls p ops).map fun call => call.1.given call.2)).1.only p :=
      only_performAll rfl ops
    _ = (c.performAll others).1.only p := by
      rw [h]
      exact (only_performAll hstart.symm others).symm

/-! ## Properties and their scopes -/

end Blueprint

namespace Property

/-- The scope that the step gives to the getter. -/
def Step.readScope? : Step → Option Scope
  | .readScope scope => some scope
  | _ => none

/-- The scope that the step gives to the setter. -/
def Step.writeScope? : Step → Option Scope
  | .writeScope scope => some scope
  | _ => none

/-- A scope of a property is the last one that it was given. -/
theorem scope_run {scopeOf : Property → Scope} {scope? : Step → Option Scope}
    (h : ∀ p step, scopeOf (perform p step).state = (scope? step).getD (scopeOf p)) (p : Property)
    (steps : List Step) :
    scopeOf (Chain.run perform p steps).state =
      (steps.filterMap scope?).getLast?.getD (scopeOf p) := by
  induction steps generalizing p with
  | nil => rfl
  | cons step rest ih =>
    have hgranted : (perform p step).result = .ok () := by cases step <;> rfl
    rw [Chain.run_cons_ok hgranted, ih, h]
    cases hstep : scope? step with
    | none => simp [hstep]
    | some scope => simp [hstep, List.getLast?_cons]

end Property

namespace Blueprint

variable {b : Blueprint}

/-- A property that is declared stays as its last step left it. -/
theorem properties_prefix_performAll (b : Blueprint) (ops : List Operation) :
    b.properties <+: (b.performAll ops).1.properties := by
  induction ops generalizing b with
  | nil => exact List.prefix_refl _
  | cons op rest ih =>
    refine List.IsPrefix.trans ?_ (ih _)
    have heffect := b.effect op
    generalize b.perform op = o at heffect
    cases heffect with
    | property known => exact List.prefix_append _ _
    | _ => exact List.prefix_refl _

/-- The accessors of a property have the last scope that a step gave them,
and before that the one of the declaration or, if it has none, the one that
the type had at that moment. -/
theorem accessors_scope {type : TypeName} (hknown : b.registry.knows type = true)
    (name : Option String) (scope : Option Scope) (steps : List Property.Step)
    (back : List Operation) :
    ∃ p, (b.performAll (.property type name scope steps :: back)).1.properties[
        b.properties.length]? = some p ∧
      p.readScope = (steps.filterMap Property.Step.readScope?).getLast?.getD
        (scope.getD b.visibility) ∧
      p.writeScope = (steps.filterMap Property.Step.writeScope?).getLast?.getD
        (scope.getD b.visibility) := by
  have hall : b.firstUnknown? [(.property, type)] = none := by simp [firstUnknown?, hknown]
  obtain ⟨further, hfurther⟩ :=
    properties_prefix_performAll (b.perform (.property type name scope steps)).state back
  refine ⟨(Chain.run Property.perform (b.newProperty type name scope) steps).state, ?_, ?_, ?_⟩
  · rw [performAll, ← hfurther, perform_property hall]
    simp [declaring, withProperty]
  · exact Property.scope_run (fun p step => by cases step <;> rfl) _ steps
  · exact Property.scope_run (fun p step => by cases step <;> rfl) _ steps

/-! ## Two histories -/

/-- The histories have the same operations for a part, in the same order;
between them may be any others. -/
def SameFor (p : Part) (ops others : List Operation) : Prop :=
  ops.filter (·.part = p) = others.filter (·.part = p)

section History

variable (known : Registry) (s t : Scope) {ops others : List Operation} {p : Part}

theorem only_ofScope (h : p ≠ .scope) : (ofScope known s).only p = (ofScope known t).only p := by
  cases p <;> first | rfl | exact absurd rfl h

theorem only_eq_of_sameFor (hscope : p ≠ .scope) (hproperties : p ≠ .properties)
    (h : SameFor p ops others) :
    ((ofScope known s).performAll ops).1.only p =
      ((ofScope known t).performAll others).1.only p := by
  refine only_eq_of_calls (only_ofScope known s t hscope) ?_
  rw [calls_of_ne hproperties, calls_of_ne hproperties, h]

end History

/-- **The parts of a type are independent.** Take two histories over one
registry, of types that were new, each with whatever operations between
those that it shares with the other. If they have the same operations on
constructors, then they end with the same constructors; likewise the same
methods, bodies included, the same base, the same interfaces and the same
marks. If they have the same operations on properties, and the types the
same scope whenever one of these borrows it, they end with the same
properties. And in every history the accessors of a property have the last
scope that a step of its declaration gave them, and before that the one that
is declared or, without one, exactly the one that the type had at that
moment. -/
theorem parts_independent (known : Registry) (s t : Scope) (ops others : List Operation) :
    let b := ((ofScope known s).performAll ops).1
    let c := ((ofScope known t).performAll others).1
    (SameFor .constructors ops others → b.constructors = c.constructors) ∧
    (SameFor .methods ops others → b.methods = c.methods) ∧
    (SameFor .base ops others → b.base = c.base) ∧
    (SameFor .interfaces ops others → b.interfaces = c.interfaces) ∧
    (SameFor .marks ops others → b.isSealed = c.isSealed ∧ b.isAbstract = c.isAbstract) ∧
    ((ofScope known s).calls .properties ops = (ofScope known t).calls .properties others →
      b.properties = c.properties) ∧
    (∀ (front back : List Operation) (type : TypeName) (name : Option String)
      (scope : Option Scope) (steps : List Property.Step),
      ops = front ++ .property type name scope steps :: back → known.knows type = true →
      let before := ((ofScope known s).performAll front).1
      ∃ p, b.properties[before.properties.length]? = some p ∧
        p.readScope = (steps.filterMap Property.Step.readScope?).getLast?.getD
          (scope.getD before.visibility) ∧
        p.writeScope = (steps.filterMap Property.Step.writeScope?).getLast?.getD
          (scope.getD before.visibility)) := by
  intro b c
  refine ⟨?constructors, ?methods, ?base, ?interfaces, ?marks, ?properties, ?accessors⟩
  case constructors =>
    intro h
    exact congrArg (·.constructors) (only_eq_of_sameFor known s t (by decide) (by decide) h)
  case methods =>
    intro h
    exact congrArg (·.methods) (only_eq_of_sameFor known s t (by decide) (by decide) h)
  case base =>
    intro h
    exact congrArg (·.base) (only_eq_of_sameFor known s t (by decide) (by decide) h)
  case interfaces =>
    intro h
    exact congrArg (·.interfaces) (only_eq_of_sameFor known s t (by decide) (by decide) h)
  case marks =>
    intro h
    have honly := only_eq_of_sameFor known s t (p := .marks) (by decide) (by decide) h
    exact ⟨congrArg (·.isSealed) honly, congrArg (·.isAbstract) honly⟩
  case properties =>
    intro h
    exact congrArg (·.properties) (only_eq_of_calls (only_ofScope known s t (by decide)) h)
  case accessors =>
    intro front back type name scope steps hops hknown before
    have hall : before.registry.knows type = true := by
      rw [registry_performAll]
      exact hknown
    simp only [b, hops, performAll_append]
    exact accessors_scope hall name scope steps back

/-- A property takes the scope that the type has, whatever it had before. -/
theorem parts_independent_interleaved :
    let int : TypeName := ⟨"System.Int32"⟩
    let b := ((ofScope .initial .assembly).performAll [.rescope .anywhere,
      .property int none none [.readable false], .markSealed, .constructor none []]).1
    let c := ((ofScope .initial .anywhere).performAll [.constructor none [], .rename "T",
      .property int none none [.readable false], .rescope .ownType, .markSealed]).1
    b.constructors = c.constructors ∧ b.properties = c.properties ∧ b.isSealed = c.isSealed ∧
      b.visibility ≠ c.visibility := by
  intro int b c
  obtain ⟨hconstructors, -, -, -, hmarks, hproperties, -⟩ :=
    parts_independent .initial .assembly .anywhere
      [.rescope .anywhere, .property int none none [.readable false], .markSealed,
        .constructor none []]
      [.constructor none [], .rename "T", .property int none none [.readable false],
        .rescope .ownType, .markSealed]
  exact ⟨hconstructors rfl, hproperties rfl, (hmarks rfl).1, by decide⟩

end Blueprint

end TypeSynthesis
