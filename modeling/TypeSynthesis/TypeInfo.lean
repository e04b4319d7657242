/-
TypeSynthesis.TypeInfo — what is known of an existing type.

Models `TypeFlavor`, `TypeInfo`, `ReturnKind` and `PrimitiveKind`.

* `Flavor` and `TypeInfo` — class, interface or value type, and whether others may inherit from it.
* `ReturnKind` — what a call leaves behind: nothing, or a value of a type.
* `Primitive` — the fourteen types that every registry knows from the start.
-/
import TypeSynthesis.Name
import TypeSynthesis.Text.Outline

namespace TypeSynthesis

/-! ## Facts of a type -/

/-- The sort of a type. -/
inductive Flavor where
  | classType
  | interfaceType
  | valueType
  deriving DecidableEq, Repr

/-- The facts of an existing type. A sealed type is nobody's base. -/
structure TypeInfo where
  flavor : Flavor
  isSealed : Bool
  deriving DecidableEq, Repr

namespace TypeInfo

/-- A class that others may inherit from. -/
def openClass : TypeInfo := ⟨.classType, false⟩

/-- A class that nobody inherits from. -/
def sealedClass : TypeInfo := ⟨.classType, true⟩

/-- An interface. -/
def interface : TypeInfo := ⟨.interfaceType, false⟩

/-- A value type; value types are sealed. -/
def valueType : TypeInfo := ⟨.valueType, true⟩

/-- The type is an interface. -/
def isInterface (info : TypeInfo) : Bool := info.flavor == .interfaceType

/-- Values of the type are boxed where an object is wanted. -/
def isValueType (info : TypeInfo) : Bool := info.flavor == .valueType

end TypeInfo

/-! ## Return kinds -/

/-- What a call leaves behind. -/
inductive ReturnKind where
  | void
  | value (type : TypeName)
  deriving DecidableEq, Repr, Inhabited

namespace ReturnKind

/-- Nothing is left behind. -/
def isVoid : ReturnKind → Bool
  | void => true
  | value _ => false

/-- The type of the value, if one is left. -/
def type? : ReturnKind → Option TypeName
  | void => none
  | value t => some t

/-- The number of values left: none or one. -/
def count (r : ReturnKind) : Nat := if r.isVoid then 0 else 1

/-- The written form. -/
def text : ReturnKind → String
  | void => "void"
  | value t => t.full

/-- The return kind as it is inspected. -/
def outline : ReturnKind → Text.Outline
  | void => .leaf "Void"
  | value t => .tuple "Value" [.leaf t.inspected]

end ReturnKind

/-! ## Primitives -/

/-- The primitive types. `i` and `u` stand for signed and unsigned integers, `r` for reals, with their
width in bytes. -/
inductive Primitive where
  | object | string | boolean | char
  | i1 | u1 | i2 | u2 | i4 | u4 | i8 | u8 | r4 | r8
  deriving DecidableEq, Repr

namespace Primitive

/-- All primitives, in the order of their declaration. -/
def all : List Primitive :=
  [object, string, boolean, char, i1, u1, i2, u2, i4, u4, i8, u8, r4, r8]

/-- The simple name; every primitive lives in the namespace `System`. -/
def simpleName : Primitive → String
  | object => "Object"
  | string => "String"
  | boolean => "Boolean"
  | char => "Char"
  | i1 => "SByte"
  | u1 => "Byte"
  | i2 => "Int16"
  | u2 => "UInt16"
  | i4 => "Int32"
  | u4 => "UInt32"
  | i8 => "Int64"
  | u8 => "UInt64"
  | r4 => "Single"
  | r8 => "Double"

/-- The full name. -/
def typeName (p : Primitive) : TypeName := ⟨"System." ++ p.simpleName⟩

/-- The facts: the root class is open, the string class sealed, all others are value types. -/
def info : Primitive → TypeInfo
  | object => .openClass
  | string => .sealedClass
  | _ => .valueType

end Primitive

end TypeSynthesis
