/-
TypeSynthesis.Member.Parameter — parameters of constructors and methods.

Models `ParameterDescriptor`.

* `Parameter` — a name with a visible character, and a type.
* `Parameter.make` — refuses exactly the blank names (`Parameter.make_eq_ok_iff`).
* `Parameter.numbered` — the name `arg1`, `arg2`, … of a parameter that nobody named.
-/
import TypeSynthesis.Fault
import TypeSynthesis.Text.Blank

namespace TypeSynthesis

/-- A parameter. Its name has a visible character. -/
structure Parameter where
  name : String
  type : TypeName
  visible : Text.isBlank name = false
  deriving DecidableEq, Repr

namespace Parameter

/-- The parameter of a name and a type. -/
def make (name : String) (type : TypeName) : Except Fault Parameter :=
  if h : Text.isBlank name = false then .ok ⟨name, type, h⟩ else .error .blankName

/-- A name that begins with a visible character is not blank. -/
theorem isBlank_append_eq_false {s : String} (h : Text.isBlank s = false) (t : String) :
    Text.isBlank (s ++ t) = false := by
  simp only [Text.isBlank, String.toList_append, List.all_append] at *
  simp [h]

/-- The parameter at a position, counted from one, that nobody named. -/
def numbered (position : Nat) (type : TypeName) : Parameter :=
  ⟨"arg" ++ toString position, type, isBlank_append_eq_false (by decide) _⟩

/-- The written form. -/
def text (p : Parameter) : String := p.type.full ++ " " ++ p.name

/-- The parameter as it is inspected. -/
def outline (p : Parameter) : Text.Outline :=
  .record "ParameterDescriptor" [("name", .quoted p.name), ("ty", .leaf p.type.inspected)] true

/-- The list in parentheses, as members write it. -/
def listText (ps : List Parameter) : String := "(" ++ ", ".intercalate (ps.map text) ++ ")"

/-- A parameter is made exactly of the names with a visible character. -/
theorem make_eq_ok_iff (name : String) (type : TypeName) :
    (∃ p, make name type = .ok p) ↔ ∃ c ∈ name.toList, Text.isBlankChar c = false := by
  rw [← Text.isBlank_eq_false_iff]
  unfold make
  split <;> simp_all

end Parameter

end TypeSynthesis
