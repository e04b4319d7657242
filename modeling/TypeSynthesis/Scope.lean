/-
TypeSynthesis.Scope — who may see a type or a member.

The words are those of the metadata tables of the common language infrastructure: a type carries its
visibility in the low three bits of its attribute word, a member one of six access words.

Models `VisibilityScope`, `TypeAttributes` and `MethodAccessFlags`.

* `Scope.access` — the access word of a member.
* `Scope.visibility` — the visibility bits of a type outside every other type: only `anywhere` leaves
  the assembly.
-/
import TypeSynthesis.Flags

namespace TypeSynthesis

/-- Who may see a type or a member: its own type only, derived types, the assembly, derived types and the
assembly, everyone. -/
inductive Scope where
  | ownType
  | family
  | assembly
  | familyOrAssembly
  | anywhere
  deriving DecidableEq, Repr, Inhabited

/-! ## Attribute words -/

namespace TypeAttributes

/-- Not seen outside the assembly. -/
def notPublic : Word := 0

/-- Seen outside the assembly. -/
def visible : Word := 0x1

/-- No instance can be made. -/
def abstractType : Word := 0x80

/-- No type can inherit. -/
def sealedType : Word := 0x100

/-- The bits that hold the visibility. -/
def visibilityMask : Word := 0x7

/-- The flags of an attribute word. -/
def flagFamily : FlagFamily :=
  ⟨"TypeAttributes", [("NOT_PUBLIC", notPublic), ("PUBLIC", visible), ("ABSTRACT", abstractType),
    ("SEALED", sealedType)]⟩

/-- The visibility in an attribute word. -/
def visibilityOf (w : Word) : Word := flagFamily.truncate (w &&& visibilityMask)

end TypeAttributes

namespace MethodAccess

/-- The access words of members. -/
def flagFamily : FlagFamily :=
  ⟨"MethodAccessFlags", [("PRIVATE", 1), ("FAM_AND_ASSEM", 2), ("ASSEM", 3), ("FAMILY", 4),
    ("FAM_OR_ASSEM", 5), ("PUBLIC", 6)]⟩

end MethodAccess

/-! ## Scopes -/

namespace Scope

/-- All scopes, in the order of their declaration. -/
def all : List Scope := [ownType, family, assembly, familyOrAssembly, anywhere]

/-- The keyword. -/
def text : Scope → String
  | ownType => "private"
  | family => "protected"
  | assembly => "internal"
  | familyOrAssembly => "protected internal"
  | anywhere => "public"

/-- The scope as it is inspected. -/
def inspected : Scope → String
  | ownType => "Private"
  | family => "Protected"
  | assembly => "Internal"
  | familyOrAssembly => "ProtectedInternal"
  | anywhere => "Public"

/-- The access word of a member. -/
def access : Scope → Word
  | ownType => 1
  | family => 4
  | assembly => 3
  | familyOrAssembly => 5
  | anywhere => 6

/-- The visibility bits of a type. -/
def visibility : Scope → Word
  | anywhere => TypeAttributes.visible
  | _ => TypeAttributes.notPublic

end Scope

end TypeSynthesis
