/-
TypeSynthesis.Blueprint.Basic — the description of a type that does not exist yet.

A blueprint has a scope, the markers sealed and abstract, at most one base, interfaces, and its members in
the order of their declaration. Existing types and callables are those of its registry.

Models `TypeDescriptor` and its `InheritanceEdge`.

* `Blueprint` and `Blueprint.new` — a new blueprint is internal to its assembly and has nothing else.
* `Blueprint.attributes` — the attribute word: visibility and markers.
* `Blueprint.outline` — the blueprint as it is inspected.
-/
import TypeSynthesis.Member.Constructor
import TypeSynthesis.Member.Method
import TypeSynthesis.Member.Property

namespace TypeSynthesis

/-- The description of a type that does not exist yet. -/
structure Blueprint where
  registry : Registry
  name : Option String
  visibility : Scope
  isSealed : Bool
  isAbstract : Bool
  base : Option TypeName
  interfaces : List TypeName
  constructors : List Constructor
  methods : List Method
  properties : List Property

namespace Blueprint

/-- A blueprint with nothing in it. -/
def ofScope (registry : Registry) (visibility : Scope) : Blueprint :=
  ⟨registry, none, visibility, false, false, none, [], [], [], []⟩

/-- A blueprint with nothing in it, internal to its assembly. -/
def new (registry : Registry) : Blueprint := ofScope registry .assembly

/-- The name by which events call the type. -/
def displayName (b : Blueprint) : String := b.name.getD "<unnamed>"

/-- The constructor of an id. -/
def constructor? (b : Blueprint) (id : Nat) : Option Constructor := b.constructors[id]?

/-- The method of an id. -/
def method? (b : Blueprint) (id : Nat) : Option Method := b.methods[id]?

/-- The property of an id. -/
def property? (b : Blueprint) (id : Nat) : Option Property := b.properties[id]?

/-- The written form of the base. -/
def baseText? (b : Blueprint) : Option String := b.base.map ("extends " ++ ·.full)

/-- The attribute word: the visibility bits and a bit for each marker that is set. -/
def attributes (b : Blueprint) : Word :=
  b.visibility.visibility
    ||| (if b.isSealed then TypeAttributes.sealedType else 0)
    ||| (if b.isAbstract then TypeAttributes.abstractType else 0)

/-- The blueprint as it is inspected; its registry is not shown. -/
def outline (b : Blueprint) : Text.Outline :=
  .record "TypeDescriptor"
    [("name", .option (b.name.map .quoted)),
      ("visibility", .leaf b.visibility.inspected),
      ("sealed", .bool b.isSealed),
      ("abstract", .bool b.isAbstract),
      ("base", .option (b.base.map fun t =>
        .record "InheritanceEdge" [("base", .leaf t.inspected)] true)),
      ("interfaces", .list (b.interfaces.map fun t => .leaf t.inspected)),
      ("constructors", .list (b.constructors.map (·.outline))),
      ("methods", .list (b.methods.map (·.outline))),
      ("properties", .list (b.properties.map (·.outline)))] false

/-- The attribute word tells visibility and markers apart. -/
theorem attributes_bits (b : Blueprint) :
    (Word.contains b.attributes TypeAttributes.sealedType = b.isSealed) ∧
      (Word.contains b.attributes TypeAttributes.abstractType = b.isAbstract) ∧
      TypeAttributes.visibilityOf b.attributes = b.visibility.visibility := by
  unfold attributes
  cases b.visibility <;> cases b.isSealed <;> cases b.isAbstract <;> decide

end Blueprint

end TypeSynthesis
