/-
TypeSynthesis.Name — names of types and callables.

A type is known by its full name alone. The full name is the namespace, a dot and the simple name; a type
outside every namespace has its simple name for full name. Reading goes the other way: the simple name is
what follows the last dot.

Models `TypeRef` (`from_parts`, `name`, `namespace`) and `CallableRef`.

* `TypeName.ofParts` joins, `TypeName.simple` and `TypeName.enclosing` split.
* `TypeName.sorted` — names in the order of their characters' code points.
* `CallableName` — the handle of a callable; its text has no structure.
-/
namespace TypeSynthesis

/-! ## Splitting at the last dot -/

/-- The characters after the last dot; all of them when there is no dot. -/
def afterLastDot (cs : List Char) : List Char :=
  (cs.reverse.takeWhile (· != '.')).reverse

/-- The characters before the last dot; none when there is no dot. -/
def beforeLastDot (cs : List Char) : List Char :=
  (cs.reverse.dropWhile (· != '.')).tail.reverse

/-! ## Types -/

/-- The handle of a type: its full name. -/
structure TypeName where
  full : String
  deriving DecidableEq, Repr, Inhabited

namespace TypeName

/-- The name of a type in a namespace; the empty namespace adds no dot. -/
def ofParts (enclosing simple : String) : TypeName :=
  ⟨if enclosing = "" then simple else enclosing ++ "." ++ simple⟩

/-- The simple name. -/
def simple (t : TypeName) : String := String.ofList (afterLastDot t.full.toList)

/-- The namespace, empty for a name without a dot. -/
def enclosing (t : TypeName) : String := String.ofList (beforeLastDot t.full.toList)

/-- Names compare as their characters do, by code point. -/
instance : Ord TypeName := ⟨fun a b => compare a.full b.full⟩

/-- The names from the least to the greatest. -/
def sorted (ts : List TypeName) : List TypeName := ts.mergeSort fun a b => (compare a b).isLE

/-- The name as it is inspected. -/
def inspected (t : TypeName) : String := "TypeRef(" ++ t.full ++ ")"

end TypeName

/-! ## Callables -/

/-- The handle of a callable. -/
structure CallableName where
  text : String
  deriving DecidableEq, Repr, Inhabited

/-- The name as it is inspected. -/
def CallableName.inspected (c : CallableName) : String := "CallableRef(" ++ c.text ++ ")"

/-! ## Facts -/

/-- Types of one full name are the same type. -/
theorem TypeName.full_inj {t u : TypeName} : t.full = u.full ↔ t = u := by
  cases t
  cases u
  simp

/-- A list is cut at its first dot without loss. -/
theorem takeWhile_append_dot {cs : List Char} (h : '.' ∈ cs) :
    cs.takeWhile (· != '.') ++ '.' :: (cs.dropWhile (· != '.')).tail = cs := by
  induction cs with
  | nil => simp at h
  | cons c r ih =>
    by_cases hc : c = '.'
    · simp [hc]
    · have hr : '.' ∈ r := by simpa [Ne.symm hc] using h
      simpa [hc] using ih hr

/-- Nothing but one dot is lost by a split. -/
theorem beforeLastDot_append_afterLastDot {cs : List Char} (h : '.' ∈ cs) :
    beforeLastDot cs ++ '.' :: afterLastDot cs = cs := by
  have hr : '.' ∈ cs.reverse := by simpa using h
  have := congrArg List.reverse (takeWhile_append_dot hr)
  simpa [beforeLastDot, afterLastDot] using this

/-- What stands before the first dot holds no dot. -/
theorem dot_not_mem_takeWhile (cs : List Char) : '.' ∉ cs.takeWhile (· != '.') := by
  induction cs with
  | nil => simp
  | cons c r ih =>
    by_cases hc : c = '.'
    · simp [hc]
    · simpa [hc, Ne.symm hc] using ih

/-- The simple name holds no dot. -/
theorem dot_not_mem_afterLastDot (cs : List Char) : '.' ∉ afterLastDot cs := by
  simpa [afterLastDot] using dot_not_mem_takeWhile cs.reverse

end TypeSynthesis
