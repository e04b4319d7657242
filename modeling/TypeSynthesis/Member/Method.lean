/-
TypeSynthesis.Member.Method — methods and their bodies.

A method has a body or not; a new body replaces the old one. The body is a script for the types of the
method's parameters.

Models `MethodDescriptor`.

* `Method.attach` — set the body; replacing one is worth a warning.
* `Method.emitBody` — run the body on an encoder.
* `Method.buildBody` — run it on a fresh one and finish: the stack must hold exactly what the return kind
  says, and the body must have returned.
-/
import TypeSynthesis.Script
import TypeSynthesis.Scope

namespace TypeSynthesis

/-- A method. Its id is its position among the methods of the type. -/
structure Method where
  id : Nat
  name : Option String
  returns : ReturnKind
  parameters : List Parameter
  visibility : Scope
  body : Option Body

namespace Method

/-- The types of the parameters. -/
def parameterTypes (m : Method) : List TypeName := m.parameters.map (·.type)

/-- A body is attached. -/
def hasBody (m : Method) : Bool := m.body.isSome

/-- The name, or the id behind a number sign. -/
def displayName (m : Method) : String := m.name.getD ("#" ++ toString m.id)

/-- The written form. -/
def text (m : Method) : String :=
  m.visibility.text ++ " " ++ m.returns.text ++ " " ++ m.displayName ++ Parameter.listText m.parameters

/-- The method as it is inspected. -/
def outline (m : Method) : Text.Outline :=
  .record "MethodDescriptor"
    [("id", .tuple "MethodId" [.nat m.id]),
      ("name", .option (m.name.map .quoted)),
      ("return_kind", m.returns.outline),
      ("parameters", .list (m.parameters.map (·.outline))),
      ("visibility", .leaf m.visibility.inspected),
      ("has_body", .bool m.hasBody)] true

/-! ## Bodies -/

/-- Set the body. -/
def attach (m : Method) (body : Body) : Outcome Method Unit :=
  .accept () { m with body := some body }
    ((if m.hasBody then [.bodyReplaced m.displayName] else []) ++ [.bodyAttached m.displayName])

/-- Run the body on an encoder. -/
def emitBody (m : Method) (e : Encoder) : Outcome Encoder Unit :=
  match m.body with
  | none => .refuse (.noBody m.displayName) e
  | some body => (body m.parameterTypes).run e

/-- The code of a body that an encoder holds, if the depth fits the return kind and the body has
returned. -/
def finish (m : Method) (e : Encoder) : Except Fault Code :=
  if e.depth = m.returns.count then e.finalize
  else .error (.depthAtReturn m.displayName m.returns e.depth)

/-- Run the body on a fresh encoder and finish it. -/
def buildBody (m : Method) : Outcome Encoder Code :=
  let o := m.emitBody .fresh
  ⟨o.result.bind fun _ => m.finish o.state, o.state, o.told⟩

/-! ## Facts -/

@[simp] theorem result_attach (m : Method) (b : Body) : (m.attach b).result = .ok () := rfl

@[simp] theorem state_attach (m : Method) (b : Body) :
    (m.attach b).state = { m with body := some b } := rfl

/-- A body is built exactly when the script succeeds on a fresh encoder, the depth fits the return kind,
and the encoder can be finished. -/
theorem buildBody_eq_ok_iff (m : Method) (c : Code) :
    m.buildBody.result = .ok c ↔
      (m.emitBody .fresh).result = .ok () ∧ (m.emitBody .fresh).state.depth = m.returns.count ∧
        (m.emitBody .fresh).state.finalize = .ok c := by
  unfold buildBody finish
  cases h : (m.emitBody .fresh).result with
  | error f => simp [h, Except.bind]
  | ok u =>
    by_cases hd : (m.emitBody .fresh).state.depth = m.returns.count <;> simp [h, hd, Except.bind]

end Method

end TypeSynthesis
