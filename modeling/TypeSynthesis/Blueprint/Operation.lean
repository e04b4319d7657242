/-
TypeSynthesis.Blueprint.Operation — describing a type, one checked operation at a time.

Every operation checks before it changes: a refused one leaves the blueprint as it was. A declaration may
be followed by steps on the new member; they run until one is refused, and what was done before stays.

Models the methods of `TypeDescriptor` that change it, with the calls on the `ConstructorBuilder`,
`MethodBuilder` or `PropertyBuilder` that a declaration returns, and `BodyEmitter` at work on a
method that `method_mut` gives.

* the operations: `markAbstract`, `markSealed`, `extend`, `implement`, `declareConstructor`,
  `declareMethod`, `declareForwarding`, `declareProperty`, `forward`, `attach`, …
* `Operation` and `Blueprint.perform` — the same as data, `Blueprint.performAll` for whole histories.
-/
import TypeSynthesis.Blueprint.Basic
import TypeSynthesis.Member.MethodStep

namespace TypeSynthesis

/-- What a declaration gives: the id of the new member, and the step that was refused, if one was. -/
structure Declared where
  id : Nat
  stopped : Option (Nat × Fault)
  deriving DecidableEq, Repr

namespace Blueprint

/-! ## The type itself -/

/-- Name the type. -/
def rename (b : Blueprint) (name : String) : Outcome Blueprint Unit :=
  .accept () { b with name := some name } []

/-- Change the scope of the type; members keep theirs. -/
def rescope (b : Blueprint) (scope : Scope) : Outcome Blueprint Unit :=
  .accept () { b with visibility := scope } []

/-- Mark the type abstract; a sealed type cannot be. -/
def markAbstract (b : Blueprint) : Outcome Blueprint Unit :=
  if b.isSealed then .refuse .sealedNotAbstract b
  else .accept () { b with isAbstract := true } [.markedAbstract b.displayName]

/-- Seal the type; an abstract type cannot be. -/
def markSealed (b : Blueprint) : Outcome Blueprint Unit :=
  if b.isAbstract then .refuse .abstractNotSealed b
  else .accept () { b with isSealed := true } [.markedSealed b.displayName]

/-- Declare the base: a known, unsealed type that is no interface. The base of a type never changes;
declaring it again does nothing. -/
def extend (b : Blueprint) (base : TypeName) : Outcome Blueprint Unit :=
  match b.registry.type? base with
  | none => .refuse (.unknownBase base) b
  | some info =>
    if info.isInterface then .refuse (.baseIsInterface base) b
    else if info.isSealed then .refuse (.baseIsSealed base) b
    else match b.base with
      | some present => if present = base then .accept () b [] else .refuse (.secondBase present base) b
      | none => .accept () { b with base := some base } [.extended b.displayName base]

/-- Declare an interface: a known type that is one. Declaring it again does nothing. -/
def implement (b : Blueprint) (interface : TypeName) : Outcome Blueprint Unit :=
  match b.registry.type? interface with
  | none => .refuse (.unknownInterface interface) b
  | some info =>
    if !info.isInterface then .refuse (.notAnInterface interface) b
    else if interface ∈ b.interfaces then .accept () b []
    else .accept () { b with interfaces := b.interfaces ++ [interface] }
      [.implemented b.displayName interface]

/-! ## Members -/

/-- The first mention of a type that is not known. -/
def firstUnknown? (b : Blueprint) (mentions : List (Mention × TypeName)) : Option Fault :=
  (mentions.find? fun m => !b.registry.knows m.2).map fun m => .unknownType m.1 m.2

/-- Declare a constructor, seen by everyone unless a scope is given. -/
def declareConstructor (b : Blueprint) (scope : Option Scope) (steps : List Constructor.Step) :
    Outcome Blueprint Declared :=
  let id := b.constructors.length
  let c := Chain.run (Constructor.perform b.registry) ⟨id, scope.getD .anywhere, []⟩ steps
  .accept ⟨id, c.stopped⟩ { b with constructors := b.constructors ++ [c.state] } c.told

/-- Add a method and take steps on it. -/
def addMethod (b : Blueprint) (m : Method) (steps : List Method.Step) : Outcome Blueprint Declared :=
  let c := Chain.run Method.perform m steps
  .accept ⟨m.id, c.stopped⟩ { b with methods := b.methods ++ [c.state] } c.told

/-- The types that a signature mentions, the return type first. -/
def mentions (returns : ReturnKind) (parameters : List Parameter) : List (Mention × TypeName) :=
  returns.type?.toList.map (.returnType, ·) ++ parameters.map fun p => (.parameter p.name, p.type)

/-- Declare a method, seen by its own type only and without a body. -/
def declareMethod (b : Blueprint) (name : Option String) (returns : ReturnKind)
    (parameters : List Parameter) (steps : List Method.Step) : Outcome Blueprint Declared :=
  match b.firstUnknown? (mentions returns parameters) with
  | some fault => .refuse fault b
  | none => b.addMethod ⟨b.methods.length, name, returns, parameters, .ownType, none⟩ steps

/-- Declare a method with the name, the return kind and the parameter types of a callable, whose body
forwards to it. -/
def declareForwarding (b : Blueprint) (f : Forwarder) (c : CallableName) (steps : List Method.Step) :
    Outcome Blueprint Declared :=
  match b.registry.callable? c with
  | none => .refuse (.unknownCallable c) b
  | some target =>
    let parameters := target.parameters.mapIdx fun i t => Parameter.numbered (i + 1) t
    let o := f.forward
      ⟨b.methods.length, some target.name.text, target.returns, parameters, .ownType, none⟩ c
    match o.result with
    | .error fault => ⟨.error fault, b, o.told⟩
    | .ok () =>
      let added := b.addMethod o.state steps
      ⟨added.result, added.state, o.told ++ added.told⟩

/-- Declare a property that can be read and written, in the scope of the type unless one is given. -/
def declareProperty (b : Blueprint) (type : TypeName) (name : Option String) (scope : Option Scope)
    (steps : List Property.Step) : Outcome Blueprint Declared :=
  match b.firstUnknown? [(.property, type)] with
  | some fault => .refuse fault b
  | none =>
    let id := b.properties.length
    let c := Chain.run Property.perform (.readWrite id type name (scope.getD b.visibility)) steps
    .accept ⟨id, c.stopped⟩ { b with properties := b.properties ++ [c.state] } c.told

/-! ## Methods that are declared -/

/-- Act on a method; there must be one. -/
def onMethod (b : Blueprint) (id : Option Nat) (act : Method → Outcome Method Unit) :
    Outcome Blueprint Unit :=
  match id with
  | none => .refuse .methodRequired b
  | some i =>
    match b.method? i with
    | none => .refuse .methodRequired b
    | some m =>
      let o := act m
      ⟨o.result, { b with methods := b.methods.set i o.state }, o.told⟩

/-- Attach to a method the body that forwards to a callable. -/
def forward (b : Blueprint) (f : Forwarder) (id : Option Nat) (c : CallableName) :
    Outcome Blueprint Unit :=
  b.onMethod id fun m => f.forward m c

/-- Attach a body to a method; there must be a body. -/
def attach (b : Blueprint) (id : Option Nat) (body : Option Body) : Outcome Blueprint Unit :=
  b.onMethod id fun m =>
    match body with
    | none => .refuse .bodyRequired m
    | some body => m.attach body

/-- Change the scope of a method, if there is one of that id, and say whether there is. -/
def rescopeMethod (b : Blueprint) (id : Nat) (scope : Scope) : Outcome Blueprint Bool :=
  .accept (id < b.methods.length)
    { b with methods := b.methods.modify id fun m => { m with visibility := scope } } []

end Blueprint

/-! ## Operations as data -/

/-- One operation on a blueprint. -/
inductive Operation where
  | rename (name : String)
  | rescope (scope : Scope)
  | markAbstract
  | markSealed
  | extend (base : TypeName)
  | implement (interface : TypeName)
  | constructor (scope : Option Scope) (steps : List Constructor.Step)
  | method (name : Option String) (returns : ReturnKind) (parameters : List Parameter)
      (steps : List Method.Step)
  | forwarding (forwarder : Forwarder) (callable : CallableName) (steps : List Method.Step)
  | property (type : TypeName) (name : Option String) (scope : Option Scope)
      (steps : List Property.Step)
  | rescopeMethod (id : Nat) (scope : Scope)
  | forward (forwarder : Forwarder) (id : Option Nat) (callable : CallableName)
  | attach (id : Option Nat) (body : Option Body)

/-- The answer to an operation. -/
inductive Reply where
  | done
  | declared (member : Declared)
  | exists (found : Bool)
  deriving DecidableEq, Repr

namespace Blueprint

/-- Perform an operation. -/
def perform (b : Blueprint) : Operation → Outcome Blueprint Reply
  | .rename name => (b.rename name).map fun _ => .done
  | .rescope scope => (b.rescope scope).map fun _ => .done
  | .markAbstract => b.markAbstract.map fun _ => .done
  | .markSealed => b.markSealed.map fun _ => .done
  | .extend base => (b.extend base).map fun _ => .done
  | .implement interface => (b.implement interface).map fun _ => .done
  | .constructor scope steps => (b.declareConstructor scope steps).map .declared
  | .method name returns parameters steps => (b.declareMethod name returns parameters steps).map .declared
  | .forwarding f c steps => (b.declareForwarding f c steps).map .declared
  | .property type name scope steps => (b.declareProperty type name scope steps).map .declared
  | .rescopeMethod id scope => (b.rescopeMethod id scope).map .exists
  | .forward f id c => (b.forward f id c).map fun _ => .done
  | .attach id body => (b.attach id body).map fun _ => .done

/-- Perform operations in order, refused ones included; what they tell, in order. -/
def performAll (b : Blueprint) : List Operation → Blueprint × Journal
  | [] => (b, [])
  | op :: rest =>
    let o := b.perform op
    let after := o.state.performAll rest
    (after.1, o.told ++ after.2)

end Blueprint

end TypeSynthesis
