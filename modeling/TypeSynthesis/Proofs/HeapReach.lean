/-
TypeSynthesis.Proofs.HeapReach — the arrays that a value holds.

An array is held by its position, so two values that have nothing to do with
each other may still lead to the same array, and a store through one of them
is seen through the other. What a value can never be seen to change by are
the stores to arrays that it does not hold.

* `Heap.Holds` — the arrays that a value leads to, itself or through others.
* `Heap.Apart` — a value that holds none of certain arrays, and only arrays
  that are there; `Apart.congr`, `Apart.write`, `apart_make` — how it stays
  so.
* `Heap.shownBy_congr` — a value shows the same in two heaps that agree on
  what it holds.
-/
import Mathlib.Logic.Relation
import TypeSynthesis.Machine.Host

namespace TypeSynthesis

/-! ## Positions -/

namespace Value

/-- The position of the array that the value is, in however many boxes. -/
def position? : Value → Option Nat
  | array p => some p
  | boxed v => v.position?
  | _ => none

@[simp] theorem position?_array (p : Nat) : (array p).position? = some p := rfl

@[simp] theorem position?_boxed (v : Value) : (boxed v).position? = v.position? := rfl

@[simp] theorem position?_null : null.position? = none := rfl

/-- A value shows the same when its array is read the same. -/
theorem shownBy_congr {f g : Nat → List Datum} {v : Value}
    (h : ∀ p, v.position? = some p → f p = g p) : v.shownBy f = v.shownBy g := by
  induction v with
  | array p => simp only [shownBy, h p rfl]
  | boxed v ih => simp only [shownBy, ih h]
  | _ => rfl

end Value

namespace Heap

variable {h k : Heap} {v u : Value} {p q : Nat} {items : Array Value}

theorem exists_items (hp : p < h.size) : ∃ items, h.items? p = some items :=
  ⟨_, Array.getElem?_eq_getElem hp⟩

/-! ## Holding -/

/-- The first array has the other one among its items, in a box or not. -/
def Links (h : Heap) (p q : Nat) : Prop :=
  ∃ items v, h.items? p = some items ∧ v ∈ items.toList ∧ v.position? = some q

/-- The value holds the array: it is that array, or leads to it through the
items of others. -/
def Holds (h : Heap) (v : Value) (q : Nat) : Prop :=
  ∃ p, v.position? = some p ∧ Relation.ReflTransGen h.Links p q

theorem holds_self (hv : v.position? = some p) : h.Holds v p := ⟨p, hv, .refl⟩

/-- What an item holds, its array holds. -/
theorem Holds.of_item (hv : v.position? = some p) (hitems : h.items? p = some items)
    (hu : u ∈ items.toList) (hq : h.Holds u q) : h.Holds v q := by
  obtain ⟨r, hr, hreach⟩ := hq
  exact ⟨p, hv, .head ⟨items, u, hitems, hu, hr⟩ hreach⟩

/-- Whatever has only arrays of a kind that leads to nothing else holds only
such arrays. -/
theorem Holds.of_closed {S : Nat → Prop}
    (hclosed : ∀ p, S p → ∀ items, h.items? p = some items → ∀ u ∈ items.toList,
      ∀ r, u.position? = some r → S r)
    (hv : ∀ p, v.position? = some p → S p) (hq : h.Holds v q) : S q := by
  obtain ⟨p, hp, hreach⟩ := hq
  induction hreach with
  | refl => exact hv p hp
  | tail _ hlink ih =>
    obtain ⟨items, u, hitems, hu, hr⟩ := hlink
    exact hclosed _ ih items hitems u hu _ hr

/-- Two heaps that agree on what a value holds in the first agree on what it
holds. -/
theorem Holds.of_same (hsame : ∀ q, h.Holds v q → k.items? q = h.items? q) (hq : k.Holds v q) :
    h.Holds v q := by
  refine Holds.of_closed (S := h.Holds v) ?_ (fun p hp => holds_self hp) hq
  intro p hp items hitems u hu r hr
  rw [hsame p hp] at hitems
  obtain ⟨s, hs, hreach⟩ := hp
  exact ⟨s, hs, hreach.tail ⟨items, u, hitems, hu, hr⟩⟩

/-- A value shows the same, however deep, in two heaps that agree on what it
holds. -/
theorem shownBy_itemsWithin_congr (hsame : ∀ q, h.Holds v q → k.items? q = h.items? q)
    (bound : Nat) : v.shownBy (k.itemsWithin bound) = v.shownBy (h.itemsWithin bound) := by
  induction bound generalizing v with
  | zero => rfl
  | succ bound ih =>
    refine Value.shownBy_congr fun p hp => ?_
    simp only [itemsWithin, hsame p (holds_self hp)]
    cases hitems : h.items? p with
    | none => rfl
    | some items =>
      refine List.map_congr_left fun u hu => ih fun q hq => ?_
      exact hsame q (hq.of_item hp hitems hu)

/-- In heaps of one size a value shows the same if they agree on what it
holds. -/
theorem shown_congr (hsize : k.size = h.size)
    (hsame : ∀ q, h.Holds v q → k.items? q = h.items? q) : k.shown v = h.shown v := by
  rw [shown, shown, hsize]
  exact shownBy_itemsWithin_congr hsame h.size

/-! ## Holding none of certain arrays -/

variable {kept : Nat → Prop}

/-- All arrays that the value holds are there, and none of them is one of
the arrays to keep. -/
def Apart (h : Heap) (kept : Nat → Prop) (v : Value) : Prop :=
  ∀ q, h.Holds v q → q < h.size ∧ ¬kept q

/-- A value that is no array holds none. -/
theorem apart_of_none (hv : v.position? = none) : h.Apart kept v := by
  rintro q ⟨p, hp, -⟩
  rw [hv] at hp
  cases hp

/-- It matters only which array a value is. -/
theorem apart_iff_array :
    h.Apart kept v ↔ ∀ p, v.position? = some p → h.Apart kept (.array p) := by
  refine ⟨fun hv p hp q hq => ?_, fun hv q hq => ?_⟩
  · obtain ⟨r, hr, hreach⟩ := hq
    obtain rfl : p = r := by simpa using hr
    exact hv q ⟨p, hp, hreach⟩
  · obtain ⟨p, hp, hreach⟩ := hq
    exact hv p hp q ⟨p, rfl, hreach⟩

theorem Apart.of_position_eq (hu : h.Apart kept u) (hv : v.position? = u.position?) :
    h.Apart kept v :=
  apart_iff_array.mpr fun p hp => apart_iff_array.mp hu p (hv ▸ hp)

theorem Apart.exists_lt (hp : h.Apart kept (.array p)) : p < h.size ∧ ¬kept p :=
  hp p (holds_self rfl)

/-- The items of an array hold nothing that the array does not. -/
theorem Apart.item (hp : h.Apart kept (.array p)) (hitems : h.items? p = some items)
    (hu : u ∈ items.toList) : h.Apart kept u :=
  fun q hq => hp q (hq.of_item rfl hitems hu)

/-- A value is apart if its array is one of a kind that stays apart. -/
theorem apart_of_closed {S : Nat → Prop} (hS : ∀ p, S p → p < h.size ∧ ¬kept p)
    (hclosed : ∀ p, S p → ∀ items, h.items? p = some items → ∀ u ∈ items.toList,
      ∀ r, u.position? = some r → S r)
    (hv : ∀ p, v.position? = some p → S p) : h.Apart kept v :=
  fun q hq => hS q (hq.of_closed hclosed hv)

/-- Another heap that has all the arrays, with the same items in all but
those to keep, changes nothing. -/
theorem Apart.congr (hv : h.Apart kept v) (hsize : h.size ≤ k.size)
    (hsame : ∀ p, p < h.size → ¬kept p → k.items? p = h.items? p) : k.Apart kept v := by
  refine apart_of_closed (S := fun p => h.Apart kept (.array p)) ?_ ?_ (apart_iff_array.mp hv)
  · intro p hp
    exact ⟨Nat.lt_of_lt_of_le hp.exists_lt.1 hsize, hp.exists_lt.2⟩
  · intro p hp items hitems u hu
    rw [hsame p hp.exists_lt.1 hp.exists_lt.2] at hitems
    exact apart_iff_array.mp (hp.item hitems hu)

/-- A store of a value that is apart changes nothing. -/
theorem Apart.write (hv : h.Apart kept v) (hu : h.Apart kept u) (position index : Nat) :
    (h.write position index u).Apart kept v := by
  refine apart_of_closed (S := fun p => h.Apart kept (.array p)) ?_ ?_ (apart_iff_array.mp hv)
  · intro p hp
    simpa using hp.exists_lt
  · intro p hp items hitems w hw
    rw [items?_write] at hitems
    -- the items are the old ones, but for the one that was stored
    have hold : ∃ old, h.items? p = some old ∧ (w ∈ old.toList ∨ w = u) := by
      split at hitems
      · obtain ⟨old, hold, rfl⟩ := Option.map_eq_some_iff.mp hitems
        rw [Array.toList_setIfInBounds] at hw
        exact ⟨old, hold, List.mem_or_eq_of_mem_set hw⟩
      · exact ⟨items, hitems, .inl hw⟩
    obtain ⟨old, hold, hw | rfl⟩ := hold
    · exact apart_iff_array.mp (hp.item hold hw)
    · exact apart_iff_array.mp hu

/-- A new array of values that are apart is apart, unless it is to keep. -/
theorem apart_make (hitems : ∀ u ∈ items.toList, h.Apart kept u) (hnew : ¬kept h.size) :
    (h.make items).2.Apart kept (.array h.size) := by
  have hgrown : ∀ u, h.Apart kept u → (h.make items).2.Apart kept u := by
    intro u hu
    refine hu.congr (by simp) fun p hp _ => ?_
    rw [items?_make, if_neg (Nat.ne_of_lt hp)]
  refine apart_of_closed
    (S := fun p => p = h.size ∨ (h.make items).2.Apart kept (.array p)) ?_ ?_ ?_
  · rintro p (rfl | hp)
    · exact ⟨by simp, hnew⟩
    · exact hp.exists_lt
  · rintro p (rfl | hp) found hfound u hu r hr
    · rw [items?_make, if_pos rfl, Option.some.injEq] at hfound
      subst hfound
      exact .inr (apart_iff_array.mp (hgrown u (hitems u hu)) r hr)
    · exact .inr (apart_iff_array.mp (hp.item hfound hu) r hr)
  · intro p hp
    exact .inl (by simpa using hp.symm)

end Heap

end TypeSynthesis
