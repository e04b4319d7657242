/-
TypeSynthesis.Proofs.KnownMentions — which types a blueprint mentions, and
whether they are known.

Constructors mention the types of their parameters, methods also what they
return, properties what they hold. Every operation that brings a type in
asks whether it is known, but one: a method that is shaped after a callable
takes over the types of the callable as they are. So what the blueprint
mentions is known exactly as far as those callables go.

* `Blueprint.mentionedTypes` — all types that the members mention.
* `refuses_step_of_unknown`, `refuses_method_of_unknown`,
  `refuses_property_of_unknown` — the operations that ask.
* `knowsAll_perform` — what one operation does to what is known.
* `mentions_known_iff` — what a history does; `shaped_mentions_unknown` — a
  history after which an unknown type is mentioned.
-/
import TypeSynthesis.Proofs.BlueprintHistories

namespace TypeSynthesis

/-! ## Mentions -/

/-- Every one of the types is known. -/
def Registry.KnowsAll (r : Registry) (types : List TypeName) : Prop := ∀ t ∈ types, r.knows t = true

instance (r : Registry) (types : List TypeName) : Decidable (r.KnowsAll types) :=
  inferInstanceAs (Decidable (∀ t ∈ types, r.knows t = true))

/-- The types that a callable mentions, the return type first. -/
def Callable.signatureTypes (c : Callable) : List TypeName := c.returns.type?.toList ++ c.parameters

/-- The types that a method mentions, the return type first. -/
def Method.signatureTypes (m : Method) : List TypeName := m.returns.type?.toList ++ m.parameterTypes

/-- The types that a step brings to a constructor. -/
def Constructor.Step.types : Constructor.Step → List TypeName
  | .take p => [p.type]
  | .takeNamed _ type => [type]
  | .takeAll ps => ps.map (·.type)

/-- The types that the members mention. -/
def Blueprint.mentionedTypes (b : Blueprint) : List TypeName :=
  b.constructors.flatMap (·.parameterTypes) ++
    (b.methods.flatMap (·.signatureTypes) ++ b.properties.map (·.type))

namespace Registry

variable {r : Registry}

@[simp] theorem knowsAll_nil : r.KnowsAll [] := by simp [KnowsAll]

@[simp] theorem knowsAll_singleton {t : TypeName} : r.KnowsAll [t] ↔ r.knows t = true := by
  simp [KnowsAll]

@[simp] theorem knowsAll_append {xs ys : List TypeName} :
    r.KnowsAll (xs ++ ys) ↔ r.KnowsAll xs ∧ r.KnowsAll ys := by
  simp [KnowsAll, or_imp, forall_and]

end Registry

/-! ## What is asked -/

namespace Constructor

variable {known : Registry} {c : Constructor} {step : Step}

/-- A step has a blank name or appends parameters of its types. -/
theorem perform_cases (known : Registry) (c : Constructor) (step : Step) :
    c.perform known step = .refuse .blankName c ∨
      ∃ ps : List Parameter, ps.map (·.type) = step.types ∧
        c.perform known step = c.takeAll known ps := by
  cases step with
  | take p => exact .inr ⟨[p], rfl, rfl⟩
  | takeAll ps => exact .inr ⟨ps, rfl, rfl⟩
  | takeNamed name type =>
    simp only [perform, takeNamed, Parameter.make]
    by_cases hname : Text.isBlank name = false
    · rw [dif_pos hname]
      exact .inr ⟨[⟨name, type, hname⟩], rfl, rfl⟩
    · rw [dif_neg hname]
      exact .inl rfl

/-- No step brings an unknown type to a constructor. -/
theorem refuses_step_of_unknown (h : ¬known.KnowsAll step.types) (c : Constructor) :
    ∃ fault, c.perform known step = .refuse fault c ∧ fault.kind = .argument := by
  rcases perform_cases known c step with hblank | ⟨ps, hps, htake⟩
  · exact ⟨_, hblank, rfl⟩
  · rw [htake, takeAll]
    cases hp : ps.find? fun p => !known.knows p.type with
    | none => exact absurd (by simpa [Registry.KnowsAll, ← hps] using hp) h
    | some p => exact ⟨_, rfl, rfl⟩

theorem knowsAll_perform (h : known.KnowsAll c.parameterTypes) (step : Step) :
    known.KnowsAll (c.perform known step).state.parameterTypes := by
  by_cases hstep : known.KnowsAll step.types
  · rcases perform_cases known c step with hblank | ⟨ps, hps, htake⟩
    · rwa [hblank]
    · have hknown : ∀ p ∈ ps, known.knows p.type = true := by
        simpa [Registry.KnowsAll, ← hps] using hstep
      rw [htake, parameterTypes, parameters_takeAll hknown, List.map_append, hps]
      exact Registry.knowsAll_append.mpr ⟨h, hstep⟩
  · obtain ⟨fault, hrefused, -⟩ := refuses_step_of_unknown hstep c
    rwa [hrefused]

end Constructor

namespace Blueprint

variable {b : Blueprint}

/-- The check of a declaration finds the types that are not known. -/
theorem firstUnknown?_eq_none_iff (mentions : List (Mention × TypeName)) :
    b.firstUnknown? mentions = none ↔ b.registry.KnowsAll (mentions.map (·.2)) := by
  simp only [firstUnknown?, Option.map_eq_none_iff, List.find?_eq_none, Registry.KnowsAll,
    List.forall_mem_map]
  simp

theorem kind_firstUnknown? {mentions : List (Mention × TypeName)} {fault : Fault}
    (h : b.firstUnknown? mentions = some fault) : fault.kind = .argument := by
  obtain ⟨m, -, rfl⟩ := Option.map_eq_some_iff.mp h
  rfl

theorem types_mentions (returns : ReturnKind) (parameters : List Parameter) :
    (mentions returns parameters).map (·.2) = returns.type?.toList ++ parameters.map (·.type) := by
  simp [mentions, Function.comp_def]

theorem refuses_method_of_unknown {returns : ReturnKind} {parameters : List Parameter}
    (h : ¬b.registry.KnowsAll (returns.type?.toList ++ parameters.map (·.type)))
    (name : Option String) (steps : List Method.Step) :
    ∃ fault, b.perform (.method name returns parameters steps) = .refuse fault b ∧
      fault.kind = .argument := by
  rw [← types_mentions, ← firstUnknown?_eq_none_iff, ← ne_eq, Option.ne_none_iff_exists'] at h
  obtain ⟨fault, hfault⟩ := h
  exact ⟨fault, by simp only [perform, declareMethod, hfault]; rfl, kind_firstUnknown? hfault⟩

theorem refuses_property_of_unknown {type : TypeName} (h : b.registry.knows type = false)
    (name : Option String) (scope : Option Scope) (steps : List Property.Step) :
    ∃ fault, b.perform (.property type name scope steps) = .refuse fault b ∧
      fault.kind = .argument := by
  have hfault : b.firstUnknown? [(.property, type)] = some (.unknownType .property type) := by
    simp [firstUnknown?, h]
  exact ⟨_, by simp only [perform, declareProperty, hfault]; rfl, rfl⟩

/-! ## One operation -/

theorem knowsAll_withConstructor {r : Registry} {c : Constructor} :
    r.KnowsAll (b.withConstructor c).mentionedTypes ↔
      r.KnowsAll b.mentionedTypes ∧ r.KnowsAll c.parameterTypes := by
  simp [mentionedTypes, withConstructor, and_left_comm, and_comm]

theorem knowsAll_withMethod {r : Registry} {m : Method} :
    r.KnowsAll (b.withMethod m).mentionedTypes ↔
      r.KnowsAll b.mentionedTypes ∧ r.KnowsAll m.signatureTypes := by
  simp [mentionedTypes, withMethod, and_left_comm, and_comm]

theorem knowsAll_withProperty {r : Registry} {p : Property} :
    r.KnowsAll (b.withProperty p).mentionedTypes ↔
      r.KnowsAll b.mentionedTypes ∧ r.knows p.type = true := by
  simp [mentionedTypes, withProperty, and_assoc]

/-- A method may be replaced by another one of its signature. -/
theorem mentionedTypes_set {id : Nat} {m new : Method} (found : b.methods[id]? = some m)
    (h : new.signatureTypes = m.signatureTypes) :
    ({ b with methods := b.methods.set id new } : Blueprint).mentionedTypes = b.mentionedTypes := by
  obtain ⟨hid, rfl⟩ := List.getElem?_eq_some_iff.mp found
  have hmap : (b.methods.set id new).map (·.signatureTypes) = b.methods.map (·.signatureTypes) := by
    rw [List.map_set, h]
    apply List.ext_getElem?
    intro i
    rw [List.getElem?_set]
    split
    · rename_i heq
      simp [← heq, hid]
    · rfl
  simp [mentionedTypes, List.flatMap_def, hmap]

end Blueprint

theorem Method.signatureTypes_perform (m : Method) (step : Step) :
    (m.perform step).state.signatureTypes = m.signatureTypes := by
  obtain ⟨-, hreturns, hparameters⟩ := m.perform_keeps step
  rw [signatureTypes, parameterTypes, hreturns, hparameters]
  rfl

theorem Method.signatureTypes_run (m : Method) (steps : List Step) :
    (Chain.run perform m steps).state.signatureTypes = m.signatureTypes :=
  Chain.run_keeps (P := fun s => s.signatureTypes = m.signatureTypes)
    (fun step _ s hs => (s.signatureTypes_perform step).trans hs) m rfl

theorem Property.type_run (p : Property) (steps : List Step) :
    (Chain.run perform p steps).state.type = p.type :=
  Chain.run_keeps (P := fun s => s.type = p.type)
    (fun step _ s hs => (s.perform_keeps step).2.trans hs) p rfl

/-- The callable after which the operation shapes a method, if the answer
grants it. -/
def Operation.shape? (known : Registry) (answer : Except Fault Reply) : Operation → Option Callable
  | .forwarding _ c _ => if answer.isOk then known.callable? c else none
  | _ => none

namespace Blueprint

variable {b : Blueprint}

/-- The callable after which the operation shapes a method. -/
def shape? (b : Blueprint) (op : Operation) : Option Callable :=
  op.shape? b.registry (b.perform op).result

theorem types_shapedMethod (b : Blueprint) (target : Callable) :
    (b.shapedMethod target).signatureTypes = target.signatureTypes := by
  have htypes : (target.parameters.mapIdx fun i t => Parameter.numbered (i + 1) t).map (·.type) =
      target.parameters := by
    apply List.ext_getElem?
    intro i
    cases h : target.parameters[i]? <;> simp [h, Parameter.numbered]
  rw [Method.signatureTypes, Method.parameterTypes, shapedMethod, newMethod, htypes]
  rfl

/-- An operation mentions what is known, unless it shapes a method after a
callable that does not. -/
theorem knowsAll_perform (b : Blueprint) (op : Operation) :
    b.registry.KnowsAll (b.perform op).state.mentionedTypes ↔
      b.registry.KnowsAll b.mentionedTypes ∧
        ∀ target ∈ b.shape? op, b.registry.KnowsAll target.signatureTypes := by
  have heffect := b.effect op
  unfold shape?
  generalize b.perform op = o at heffect ⊢
  cases heffect with
  | refused =>
    have hnone (fault : Fault) : op.shape? b.registry (.error fault) = none := by cases op <;> rfl
    simp [hnone]
  | constructor scope steps =>
    -- Constructors start without parameters and are asked at every step.
    have hnew : b.registry.KnowsAll (Chain.run (Constructor.perform b.registry)
        (b.newConstructor scope) steps).state.parameterTypes :=
      Chain.run_keeps (P := fun c : Constructor => b.registry.KnowsAll c.parameterTypes)
        (fun step _ c hc => Constructor.knowsAll_perform hc step) _ Registry.knowsAll_nil
    simp [declaring, knowsAll_withConstructor, hnew, Operation.shape?]
  | @method name returns parameters steps known =>
    rw [firstUnknown?_eq_none_iff, types_mentions] at known
    have hnew : b.registry.KnowsAll (b.newMethod name returns parameters).signatureTypes := known
    simp [declaring, knowsAll_withMethod, Method.signatureTypes_run, hnew, Operation.shape?]
  | @forwarding f c steps target known attached =>
    -- Nothing was asked of these types, so they are known if those of the callable are.
    have hforward := (b.shapedMethod target).signatureTypes_perform (.forward f c)
    have hstart : (f.forward (b.shapedMethod target) c).state.signatureTypes =
        target.signatureTypes := hforward.trans (b.types_shapedMethod target)
    simp [declaring, knowsAll_withMethod, Method.signatureTypes_run, hstart, Operation.shape?,
      known, Except.isOk, Except.toBool]
  | @property type name scope steps known =>
    rw [firstUnknown?_eq_none_iff] at known
    have hnew : b.registry.knows (b.newProperty type name scope).type = true :=
      Registry.knowsAll_singleton.mp known
    simp [declaring, knowsAll_withProperty, Property.type_run, hnew, Operation.shape?]
  | step step on found granted =>
    have hnone (answer : Except Fault Reply) : op.shape? b.registry answer = none := by
      cases op with
      | forwarding => cases on
      | _ => rfl
    simp [mentionedTypes_set found (Method.signatureTypes_perform _ step), hnone]
  | absent | rename | rescope | markAbstract | markSealed | extend | extendAgain | implement
  | implementAgain => exact (and_iff_left fun _ h => absurd h (Option.not_mem_none _)).symm

/-! ## Histories -/

/-- The callables after which a history shapes methods. -/
def shapes (b : Blueprint) : List Operation → List Callable
  | [] => []
  | op :: rest => (b.shape? op).toList ++ (b.perform op).state.shapes rest

theorem knowsAll_performAll (b : Blueprint) (ops : List Operation) :
    b.registry.KnowsAll (b.performAll ops).1.mentionedTypes ↔
      b.registry.KnowsAll b.mentionedTypes ∧
        ∀ target ∈ b.shapes ops, b.registry.KnowsAll target.signatureTypes := by
  induction ops generalizing b with
  | nil => simp [performAll, shapes]
  | cons op rest ih =>
    have hrest := ih (b.perform op).state
    rw [registry_perform] at hrest
    rw [performAll, hrest, knowsAll_perform]
    simp [shapes, or_imp, forall_and, and_assoc]

/-- **What is mentioned is known as far as callables go.** After any history
of a new type, every type that a member mentions is known exactly when the
callables after which a method was shaped mention known types only. All
other ways to bring in a type that is not known are refused, and change
nothing: a step on a constructor, the declaration of a method, and that of a
property. -/
theorem mentions_known_iff (known : Registry) (start : Scope) (ops : List Operation) :
    (known.KnowsAll ((ofScope known start).performAll ops).1.mentionedTypes ↔
      ∀ target ∈ (ofScope known start).shapes ops, known.KnowsAll target.signatureTypes) ∧
    let b := ((ofScope known start).performAll ops).1
    (∀ (c : Constructor) (step : Constructor.Step), ¬known.KnowsAll step.types →
      ∃ fault, c.perform known step = .refuse fault c ∧ fault.kind = .argument) ∧
    (∀ name returns parameters steps,
      ¬known.KnowsAll (returns.type?.toList ++ parameters.map (·.type)) →
      ∃ fault, b.perform (.method name returns parameters steps) = .refuse fault b ∧
        fault.kind = .argument) ∧
    ∀ type name scope steps, known.knows type = false →
      ∃ fault, b.perform (.property type name scope steps) = .refuse fault b ∧
        fault.kind = .argument := by
  have hregistry := registry_performAll (ofScope known start) ops
  refine ⟨?_, fun c step h => Constructor.refuses_step_of_unknown h c, ?_, ?_⟩
  · have hall := knowsAll_performAll (ofScope known start) ops
    have hempty : (ofScope known start).mentionedTypes = [] := rfl
    rw [hempty] at hall
    simpa [ofScope] using hall
  · intro name returns parameters steps h
    exact refuses_method_of_unknown (by rwa [hregistry]) name steps
  · intro type name scope steps h
    exact refuses_property_of_unknown (by rwa [hregistry]) name scope steps

/-- A static callable that takes a type that nobody registered. -/
def ghost : Callable := .staticMethod ⟨"f"⟩ Primitive.object.typeName [⟨"Ghost.Type"⟩] .void

/-- A registry that knows the callable. -/
def haunted : Registry := Registry.initial.putCallable ghost

/-- A method that is shaped after such a callable mentions its type. -/
theorem shaped_mentions_unknown :
    ∃ reply, ((new haunted).perform (.forwarding (.standard haunted) ⟨"f"⟩ [])).result = .ok reply ∧
      ⟨"Ghost.Type"⟩ ∈
        ((new haunted).perform (.forwarding (.standard haunted) ⟨"f"⟩ [])).state.mentionedTypes ∧
      haunted.knows ⟨"Ghost.Type"⟩ = false := by
  exact ⟨.declared ⟨0, none⟩, by rfl, by decide, by decide⟩

end Blueprint

end TypeSynthesis
