/-
TypeSynthesis.Table — a finite map in which the last write wins.

The entries stand in the order in which their keys were first written; a later write under the same key
replaces the value where it stands.

Models the maps of `TypeRegistry` and of `StackMachine`.

* `find?_put` — a read sees the last write under its key.
* `keys_put` — a write adds its key at the end, or nothing.
* `nodup_keys_put` — no key stands twice, so `size` counts distinct keys.
-/
namespace TypeSynthesis

/-- A finite map as the list of its entries. -/
structure Table (κ α : Type) where
  entries : List (κ × α)
  deriving DecidableEq, Repr

namespace Table

variable {κ α : Type} [DecidableEq κ]

/-! ## Operations -/

/-- The table without entries. -/
def empty : Table κ α := ⟨[]⟩

/-- The first value under the key in a list of entries. -/
def lookup (key : κ) : List (κ × α) → Option α
  | [] => none
  | (k, a) :: rest => if k = key then some a else lookup key rest

/-- The entries with the value under the key, replaced in place or added at the end. -/
def write (key : κ) (value : α) : List (κ × α) → List (κ × α)
  | [] => [(key, value)]
  | (k, a) :: rest => if k = key then (key, value) :: rest else (k, a) :: write key value rest

/-- The value under the key. -/
def find? (t : Table κ α) (key : κ) : Option α := lookup key t.entries

/-- The key has a value. -/
def has (t : Table κ α) (key : κ) : Bool := (t.find? key).isSome

/-- Write the value under the key. -/
def put (t : Table κ α) (key : κ) (value : α) : Table κ α := ⟨write key value t.entries⟩

/-- The keys in the order of their first writes. -/
def keys (t : Table κ α) : List κ := t.entries.map (·.1)

/-- The number of entries. -/
def size (t : Table κ α) : Nat := t.entries.length

/-! ## Facts -/

@[simp] theorem find?_empty (key : κ) : (empty : Table κ α).find? key = none := rfl

/-- A read sees the last write under its key. -/
theorem find?_put (t : Table κ α) (key other : κ) (value : α) :
    (t.put key value).find? other = if other = key then some value else t.find? other := by
  obtain ⟨entries⟩ := t
  simp only [find?, put]
  induction entries with
  | nil => simp [write, lookup, eq_comm]
  | cons e rest ih =>
    obtain ⟨k, a⟩ := e
    by_cases hk : k = key
    · subst hk
      by_cases ho : k = other
      · simp [write, lookup, ho]
      · simp [write, lookup, ho, Ne.symm ho]
    · by_cases ho : k = other
      · subst ho
        simp [write, lookup, hk]
      · simp [write, lookup, hk, ho, ih]

/-- A key has a value exactly when it is among the keys. -/
theorem mem_keys_iff (t : Table κ α) (key : κ) : key ∈ t.keys ↔ (t.find? key).isSome := by
  obtain ⟨entries⟩ := t
  simp only [find?, keys]
  induction entries with
  | nil => simp [lookup]
  | cons e rest ih =>
    obtain ⟨k, a⟩ := e
    by_cases hk : k = key
    · simp [lookup, hk]
    · simpa [lookup, hk, Ne.symm hk] using ih

/-- A write adds its key at the end, or nothing. -/
theorem keys_put (t : Table κ α) (key : κ) (value : α) :
    (t.put key value).keys = if key ∈ t.keys then t.keys else t.keys ++ [key] := by
  obtain ⟨entries⟩ := t
  simp only [put, keys]
  induction entries with
  | nil => simp [write]
  | cons e rest ih =>
    obtain ⟨k, a⟩ := e
    by_cases hk : k = key
    · simp [write, hk]
    · simp only [write, hk, if_false, List.map_cons, ih, List.mem_cons, Ne.symm hk, false_or]
      by_cases hm : key ∈ rest.map (·.1) <;> simp [hm]

/-- Writing keeps the keys distinct. -/
theorem nodup_keys_put {t : Table κ α} (h : t.keys.Nodup) (key : κ) (value : α) :
    (t.put key value).keys.Nodup := by
  rw [keys_put]
  split
  · exact h
  · next hk =>
    refine List.nodup_append.mpr ⟨h, by simp, ?_⟩
    rintro a ha b hb rfl
    exact hk (by simpa [List.mem_singleton.mp hb] using ha)

end Table

end TypeSynthesis
