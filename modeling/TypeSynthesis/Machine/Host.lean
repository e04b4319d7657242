/-
TypeSynthesis.Machine.Host — what stands behind a callable when code runs.

A host sees the heap and the arguments of a call. It may leave a value and may make new arrays; it changes
none that is there.

Models the hosts of a `StackMachine`.

* `Host` and `Answer` — the answer of a host; `Heap.extend` adds the arrays it makes.
* a few hosts: `Host.silent`, `Host.constant`, `Host.counting`, `Host.first`, `Host.last`,
  `Host.unboxingFirst`, `Host.packing`.
* `Heap.items?_extend_of_lt` — the arrays that were there stay as they are.
-/
import TypeSynthesis.Machine.Value

namespace TypeSynthesis

/-- The answer of a host: the arrays it makes, which come to stand behind those of the heap, and the
value it leaves. -/
structure Answer where
  made : List (List Value)
  value : Option Value
  deriving DecidableEq, Repr

/-- What stands behind a callable. -/
abbrev Host := Heap → List Value → Answer

/-- The heap with the arrays that an answer makes. -/
def Heap.extend (h : Heap) (a : Answer) : Heap := ⟨a.made.foldl (fun arrays items => arrays.push items.toArray) h.arrays⟩

namespace Host

/-- Leaves no value. -/
def silent : Host := fun _ _ => ⟨[], none⟩

/-- Leaves the same value at every call. -/
def constant (v : Value) : Host := fun _ _ => ⟨[], some v⟩

/-- Leaves the number of arguments. -/
def counting : Host := fun _ arguments => ⟨[], some (.int32 (.ofNat arguments.length))⟩

/-- Leaves the first argument, if there is one. -/
def first : Host := fun _ arguments => ⟨[], arguments.head?⟩

/-- Leaves the last argument, if there is one. -/
def last : Host := fun _ arguments => ⟨[], arguments.getLast?⟩

/-- Leaves the first argument without its outermost box. -/
def unboxingFirst : Host := fun _ arguments => ⟨[], arguments.head?.map (·.unboxed)⟩

/-- Leaves the arguments in a new array. -/
def packing : Host := fun h arguments => ⟨[arguments], some (.array h.size)⟩

end Host

/-! ## Facts -/

namespace Heap

/-- An answer adds its arrays behind those of the heap. -/
theorem arrays_extend (h : Heap) (a : Answer) :
    (h.extend a).arrays = h.arrays ++ (a.made.map List.toArray).toArray := by
  simp [extend]

theorem size_extend (h : Heap) (a : Answer) : (h.extend a).size = h.size + a.made.length := by
  simp [size, arrays_extend]

/-- The arrays that were there stay as they are. -/
theorem items?_extend_of_lt {h : Heap} {p : Nat} (hp : p < h.size) (a : Answer) :
    (h.extend a).items? p = h.items? p := by
  rw [items?, arrays_extend]
  exact Array.getElem?_append_left hp

/-- The new arrays do not depend on the others. -/
theorem items?_extend_of_ge {h : Heap} {p : Nat} (hp : h.size ≤ p) (a : Answer) :
    (h.extend a).items? p = (a.made.map List.toArray)[p - h.size]? := by
  rw [items?, arrays_extend, Array.getElem?_append_right hp]
  simp [size]

end Heap

end TypeSynthesis
