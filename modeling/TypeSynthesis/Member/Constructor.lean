/-
TypeSynthesis.Member.Constructor — constructors and how they come by their parameters.

Models `ConstructorDescriptor` and `ConstructorBuilder` (`takes`, `takes_named`, `takes_all`).

* `Constructor.takeAll` — append parameters, all or none: when some type is unknown, the first such
  parameter is named and nothing is appended.
* `Constructor.Step`, `Constructor.perform` — the steps that follow a declaration.
* `parameters_takeAll` — what it appends.
-/
import TypeSynthesis.Outcome
import TypeSynthesis.Registry
import TypeSynthesis.Scope

namespace TypeSynthesis

/-- A constructor. Its id is its position among the constructors of the type. -/
structure Constructor where
  id : Nat
  visibility : Scope
  parameters : List Parameter
  deriving DecidableEq, Repr

namespace Constructor

/-- The types of the parameters. -/
def parameterTypes (c : Constructor) : List TypeName := c.parameters.map (·.type)

/-- The written form. -/
def text (c : Constructor) : String :=
  c.visibility.text ++ " .ctor" ++ Parameter.listText c.parameters

/-- The constructor as it is inspected. -/
def outline (c : Constructor) : Text.Outline :=
  .record "ConstructorDescriptor"
    [("id", .tuple "ConstructorId" [.nat c.id]),
      ("visibility", .leaf c.visibility.inspected),
      ("parameters", .list (c.parameters.map (·.outline)))] true

/-! ## Steps -/

/-- Append parameters, all of them or none. -/
def takeAll (known : Registry) (c : Constructor) (ps : List Parameter) : Outcome Constructor Unit :=
  match ps.find? fun p => !known.knows p.type with
  | some p => .refuse (.unknownType (.parameter p.name) p.type) c
  | none => .accept () { c with parameters := c.parameters ++ ps } (ps.map (.parameterTaken c.id))

/-- Append one parameter. -/
def take (known : Registry) (c : Constructor) (p : Parameter) : Outcome Constructor Unit :=
  c.takeAll known [p]

/-- Append the parameter of a name and a type. -/
def takeNamed (known : Registry) (c : Constructor) (name : String) (type : TypeName) :
    Outcome Constructor Unit :=
  match Parameter.make name type with
  | .error fault => .refuse fault c
  | .ok p => c.take known p

/-- A step that follows the declaration of a constructor. -/
inductive Step where
  | take (parameter : Parameter)
  | takeNamed (name : String) (type : TypeName)
  | takeAll (parameters : List Parameter)
  deriving Repr

/-- Perform a step. -/
def perform (known : Registry) (c : Constructor) : Step → Outcome Constructor Unit
  | .take p => c.take known p
  | .takeNamed name type => c.takeNamed known name type
  | .takeAll ps => c.takeAll known ps

/-! ## Facts -/

/-- Accepted parameters stand behind the earlier ones. -/
theorem parameters_takeAll {known : Registry} {c : Constructor} {ps : List Parameter}
    (h : ∀ p ∈ ps, known.knows p.type = true) :
    (c.takeAll known ps).state.parameters = c.parameters ++ ps := by
  have : ps.find? (fun p => !known.knows p.type) = none := by
    simpa [List.find?_eq_none] using h
  simp [takeAll, this]

end Constructor

end TypeSynthesis
