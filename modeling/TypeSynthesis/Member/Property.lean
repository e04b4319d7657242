/-
TypeSynthesis.Member.Property — properties and their accessors.

Models `PropertyDescriptor` and `PropertyBuilder`.

* `Property` — a getter and a setter, each present or not, each with a scope of its own.
* `Property.Step`, `Property.perform` — the steps that follow a declaration; none is ever refused.
-/
import TypeSynthesis.Outcome
import TypeSynthesis.Scope

namespace TypeSynthesis

/-- A property. Its id is its position among the properties of the type. -/
structure Property where
  id : Nat
  type : TypeName
  name : Option String
  readable : Bool
  writable : Bool
  readScope : Scope
  writeScope : Scope
  deriving DecidableEq, Repr

namespace Property

/-- A property that can be read and written in one scope. -/
def readWrite (id : Nat) (type : TypeName) (name : Option String) (scope : Scope) : Property :=
  ⟨id, type, name, true, true, scope, scope⟩

/-- The written form: the accessors that are present stand in braces. -/
def text (p : Property) : String :=
  p.type.full ++ " " ++ p.name.getD "<unnamed>" ++ " \x7b" ++
    (if p.readable then " " ++ p.readScope.text ++ " get;" else "") ++
    (if p.writable then " " ++ p.writeScope.text ++ " set;" else "") ++ " \x7d"

/-- The property as it is inspected. -/
def outline (p : Property) : Text.Outline :=
  .record "PropertyDescriptor"
    [("id", .tuple "PropertyId" [.nat p.id]),
      ("ty", .leaf p.type.inspected),
      ("name", .option (p.name.map .quoted)),
      ("readable", .bool p.readable),
      ("writable", .bool p.writable),
      ("read_scope", .leaf p.readScope.inspected),
      ("write_scope", .leaf p.writeScope.inspected)] true

/-- A step that follows the declaration of a property. -/
inductive Step where
  | rename (name : String)
  | readable (value : Bool)
  | writable (value : Bool)
  | readScope (scope : Scope)
  | writeScope (scope : Scope)
  deriving DecidableEq, Repr

/-- Perform a step. -/
def perform (p : Property) : Step → Outcome Property Unit
  | .rename name => .accept () { p with name := some name } []
  | .readable value => .accept () { p with readable := value } []
  | .writable value => .accept () { p with writable := value } []
  | .readScope scope => .accept () { p with readScope := scope } []
  | .writeScope scope => .accept () { p with writeScope := scope } []

/-- No step changes the id or the type. -/
theorem perform_keeps (p : Property) (step : Step) :
    (p.perform step).state.id = p.id ∧ (p.perform step).state.type = p.type := by
  cases step <;> exact ⟨rfl, rfl⟩

end Property

end TypeSynthesis
