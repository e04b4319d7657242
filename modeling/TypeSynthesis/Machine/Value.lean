/-
TypeSynthesis.Machine.Value — values and the heap of arrays.

Arrays are shared: a value holds the position of its array in the heap, and a store through one holder is
seen by all. A datum is what a value shows when it is read out of the heap, a tree without sharing.

Models `Value`, with arrays at positions of a heap.

* `Value`, `Heap`, `Heap.write` — values and stores.
* `Heap.shown`, `Heap.place` — out of the heap and into it.
* `Heap.items?_write`, `Heap.items?_make` — what a store changes, and what a new array does.
-/
import TypeSynthesis.Name
import TypeSynthesis.Text.Outline

namespace TypeSynthesis

/-! ## Data -/

/-- What a value shows. -/
inductive Datum where
  | null
  | int32 (value : Int32)
  | text (value : String)
  | boxed (inner : Datum)
  | array (items : List Datum)
  | pointer (callable : CallableName)
  | adapter (callable : CallableName)

namespace Datum

mutual

/-- The datum as it is inspected. -/
def outline : Datum → Text.Outline
  | null => .leaf "Null"
  | int32 v => .tuple "I32" [.leaf (toString v.toInt)]
  | text s => .tuple "Str" [.quoted s]
  | boxed d => .tuple "Boxed" [d.outline]
  | array items => .tuple "Array" [.record "RefCell" [("value", .list (outlines items))] true]
  | pointer c => .tuple "FnPtr" [.leaf c.inspected]
  | adapter c => .tuple "Adapter" [.leaf c.inspected]

/-- Each datum as it is inspected. -/
def outlines : List Datum → List Text.Outline
  | [] => []
  | d :: rest => d.outline :: outlines rest

end

end Datum

/-! ## Values -/

/-- A value of the machine. An array is held by its position in the heap. -/
inductive Value where
  | null
  | int32 (value : Int32)
  | text (value : String)
  | boxed (inner : Value)
  | array (position : Nat)
  | pointer (callable : CallableName)
  | adapter (callable : CallableName)
  deriving DecidableEq, Repr, Inhabited

namespace Value

/-- The value without its outermost box. -/
def unboxed : Value → Value
  | boxed inner => inner
  | v => v

/-- What the value shows when arrays are read by a function. -/
def shownBy (items : Nat → List Datum) : Value → Datum
  | null => .null
  | int32 v => .int32 v
  | text s => .text s
  | boxed v => .boxed (v.shownBy items)
  | array position => .array (items position)
  | pointer c => .pointer c
  | adapter c => .adapter c

end Value

/-! ## The heap -/

/-- The arrays, in the order in which they were made. -/
structure Heap where
  arrays : Array (Array Value)
  deriving DecidableEq, Repr

namespace Heap

/-- No array. -/
def empty : Heap := ⟨#[]⟩

/-- The number of arrays. -/
def size (h : Heap) : Nat := h.arrays.size

/-- The items of an array. -/
def items? (h : Heap) (position : Nat) : Option (Array Value) := h.arrays[position]?

/-- The heap with one more array, and that array. -/
def make (h : Heap) (items : Array Value) : Value × Heap := (.array h.size, ⟨h.arrays.push items⟩)

/-- Store a value at an index of an array; a store outside the array does nothing. -/
def write (h : Heap) (position index : Nat) (v : Value) : Heap :=
  ⟨h.arrays.modify position fun items => items.setIfInBounds index v⟩

/-- The items of an array as data; arrays nested deeper than the bound show nothing. -/
def itemsWithin (h : Heap) : Nat → Nat → List Datum
  | 0, _ => []
  | bound + 1, position =>
    match h.items? position with
    | none => []
    | some items => items.toList.map (Value.shownBy (h.itemsWithin bound))

/-- What a value shows. No chain of arrays without repetition is longer than the heap, so all of a value
without cycles is shown. -/
def shown (h : Heap) (v : Value) : Datum := v.shownBy (h.itemsWithin h.size)

mutual

/-- Put a datum into the heap, every array in it as a new one. -/
def place (h : Heap) : Datum → Value × Heap
  | .null => (.null, h)
  | .int32 v => (.int32 v, h)
  | .text s => (.text s, h)
  | .boxed d =>
    let (v, h) := h.place d
    (.boxed v, h)
  | .array items =>
    let (vs, h) := h.placeAll items
    h.make vs.toArray
  | .pointer c => (.pointer c, h)
  | .adapter c => (.adapter c, h)

/-- Put data into the heap one after another. -/
def placeAll (h : Heap) : List Datum → List Value × Heap
  | [] => ([], h)
  | d :: rest =>
    let (v, h) := h.place d
    let (vs, h) := h.placeAll rest
    (v :: vs, h)

end

/-! ## Facts -/

@[simp] theorem size_write (h : Heap) (position index : Nat) (v : Value) :
    (h.write position index v).size = h.size := by
  simp [write, size]

@[simp] theorem size_make (h : Heap) (items : Array Value) : (h.make items).2.size = h.size + 1 := by
  simp [make, size]

/-- A new array stands behind all others. -/
theorem items?_make (h : Heap) (items : Array Value) (other : Nat) :
    (h.make items).2.items? other = if other = h.size then some items else h.items? other :=
  Array.getElem?_push

/-- A store changes one item of one array. -/
theorem items?_write (h : Heap) (position index other : Nat) (v : Value) :
    (h.write position index v).items? other =
      if other = position then (h.items? other).map (·.setIfInBounds index v) else h.items? other := by
  simp only [write, items?, Array.getElem?_modify, eq_comm]

end Heap

end TypeSynthesis
