/-
TypeSynthesis.Proofs.NameParts — namespace and simple name make up the full
name.

A full name is cut at its last dot. What was joined from a namespace and a
simple name without a dot comes apart as it was joined, whatever dots the
namespace has. The other way round there is one exception: where the last
dot is the first character, the namespace is empty, and an empty namespace
adds no dot when the parts are joined again.

* `IsLastDot`, `IsLastDot.cut` — where the last dot of a text is, and that
  the text is cut there.
* `TypeName.parts_ofParts` — what is joined comes apart.
* `TypeName.ofParts_parts_iff`, `TypeName.ofParts_parts_of_leading` — what is
  cut is joined again, but for one dot.
* `TypeName.parts_exact` — both, and when two joined names are the same.
-/
import Mathlib.Data.List.TakeWhile
import TypeSynthesis.Name

namespace TypeSynthesis

/-! ## The last dot -/

/-- The last dot of the text is at that position. -/
def IsLastDot (cs : List Char) (i : Nat) : Prop := cs[i]? = some '.' ∧ '.' ∉ cs.drop (i + 1)

variable {cs front back : List Char}

theorem IsLastDot.eq_append {i : Nat} (h : IsLastDot cs i) :
    cs = cs.take i ++ '.' :: cs.drop (i + 1) := by
  obtain ⟨hi, hdot⟩ := List.getElem?_eq_some_iff.mp h.1
  calc cs
    _ = cs.take i ++ cs.drop i := (List.take_append_drop i cs).symm
    _ = cs.take i ++ '.' :: cs.drop (i + 1) := by rw [List.drop_eq_getElem_cons hi, hdot]

theorem ne_dot_of_mem_reverse (h : '.' ∉ cs) : ∀ c ∈ cs.reverse, (c != '.') = true := by
  intro c hc
  simpa using ne_of_mem_of_not_mem (List.mem_reverse.mp hc) h

theorem afterLastDot_append (h : '.' ∉ back) : afterLastDot (front ++ '.' :: back) = back := by
  have hreverse : (front ++ '.' :: back).reverse = back.reverse ++ '.' :: front.reverse := by simp
  rw [afterLastDot, hreverse, List.takeWhile_append_of_pos (ne_dot_of_mem_reverse h)]
  simp

theorem beforeLastDot_append (h : '.' ∉ back) : beforeLastDot (front ++ '.' :: back) = front := by
  -- Nothing but one dot is lost by the cut, and what stands behind it is known.
  have hall : beforeLastDot (front ++ '.' :: back) ++ '.' :: afterLastDot (front ++ '.' :: back) =
      front ++ '.' :: back := beforeLastDot_append_afterLastDot (by simp)
  rw [afterLastDot_append h] at hall
  exact List.append_cancel_right hall

theorem afterLastDot_of_not_mem (h : '.' ∉ cs) : afterLastDot cs = cs := by
  rw [afterLastDot, List.takeWhile_eq_self_iff.mpr (ne_dot_of_mem_reverse h), List.reverse_reverse]

theorem beforeLastDot_of_not_mem (h : '.' ∉ cs) : beforeLastDot cs = [] := by
  rw [beforeLastDot, List.dropWhile_eq_nil_iff.mpr (ne_dot_of_mem_reverse h)]
  rfl

/-- A text is cut at its last dot. -/
theorem IsLastDot.cut {i : Nat} (h : IsLastDot cs i) :
    beforeLastDot cs = cs.take i ∧ afterLastDot cs = cs.drop (i + 1) := by
  have hbefore : beforeLastDot (cs.take i ++ '.' :: cs.drop (i + 1)) = cs.take i :=
    beforeLastDot_append h.2
  have hafter : afterLastDot (cs.take i ++ '.' :: cs.drop (i + 1)) = cs.drop (i + 1) :=
    afterLastDot_append h.2
  rw [← h.eq_append] at hbefore hafter
  exact ⟨hbefore, hafter⟩

/-! ## Names and their parts -/

namespace TypeName

variable {enclosing simple : String}

theorem toList_full_ofParts (h : enclosing ≠ "") :
    (ofParts enclosing simple).full.toList = enclosing.toList ++ '.' :: simple.toList := by
  simp [ofParts, h]

/-- What is joined from a namespace and a simple name without a dot has these
for its parts. -/
theorem parts_ofParts (h : '.' ∉ simple.toList) (enclosing : String) :
    (ofParts enclosing simple).enclosing = enclosing ∧
      (ofParts enclosing simple).simple = simple := by
  by_cases hempty : enclosing = ""
  · subst hempty
    have hfull : (ofParts "" simple).full = simple := rfl
    rw [TypeName.enclosing, TypeName.simple, hfull, beforeLastDot_of_not_mem h,
      afterLastDot_of_not_mem h]
    exact ⟨rfl, String.ofList_toList⟩
  · rw [TypeName.enclosing, TypeName.simple, toList_full_ofParts hempty, beforeLastDot_append h,
      afterLastDot_append h]
    exact ⟨String.ofList_toList, String.ofList_toList⟩

/-- The last dot of a name stands between its parts. -/
theorem toList_parts_of_isLastDot {t : TypeName} {i : Nat} (h : IsLastDot t.full.toList i) :
    t.enclosing.toList = t.full.toList.take i ∧ t.simple.toList = t.full.toList.drop (i + 1) := by
  obtain ⟨hbefore, hafter⟩ := h.cut
  rw [enclosing, simple, String.toList_ofList, String.toList_ofList]
  exact ⟨hbefore, hafter⟩

/-- Where the last dot comes first, it is lost when the parts are joined. -/
theorem ofParts_parts_of_leading {t : TypeName} (h : IsLastDot t.full.toList 0) :
    t.full = "." ++ t.simple ∧ ofParts t.enclosing t.simple = ⟨t.simple⟩ := by
  obtain ⟨hbefore, hafter⟩ := toList_parts_of_isLastDot h
  have henclosing : t.enclosing = "" := String.toList_inj.mp hbefore
  refine ⟨?_, by rw [henclosing]; rfl⟩
  rw [← String.toList_inj, String.toList_append, hafter]
  exact h.eq_append

/-- The parts of a name make up the name again, unless its last dot is its
first character. -/
theorem ofParts_parts_iff (t : TypeName) :
    ofParts t.enclosing t.simple = t ↔ ¬IsLastDot t.full.toList 0 := by
  constructor
  · intro h hleading
    obtain ⟨hfull, hlost⟩ := ofParts_parts_of_leading hleading
    -- The name would be one dot shorter than itself.
    have hlength := congrArg (·.full.length) (h.symm.trans hlost)
    simp only [hfull] at hlength
    simp at hlength
  · intro h
    by_cases hdot : '.' ∈ t.full.toList
    · have hall := beforeLastDot_append_afterLastDot hdot
      have henclosing : t.enclosing ≠ "" := by
        intro hempty
        have hbefore : beforeLastDot t.full.toList = [] := by
          simpa [enclosing, ← String.toList_inj] using hempty
        rw [hbefore] at hall
        refine h ?_
        rw [← hall]
        exact ⟨rfl, dot_not_mem_afterLastDot _⟩
      rw [← full_inj, ← String.toList_inj, toList_full_ofParts henclosing, enclosing, simple,
        String.toList_ofList, String.toList_ofList, hall]
    · have henclosing : t.enclosing = "" := by
        rw [enclosing, beforeLastDot_of_not_mem hdot]
      have hsimple : t.simple = t.full := by
        rw [simple, afterLastDot_of_not_mem hdot, String.ofList_toList]
      rw [henclosing, hsimple]
      rfl

/-- **Namespace and simple name make up the full name.**

* The last dot of a name, if it has one, stands between its parts.
* What is joined from any namespace, empty and dotted ones included, and a
  simple name without a dot, has these for its parts.
* So two names that were joined like that are the same exactly when both
  parts are.
* The parts of any name make up the name again exactly when its last dot, if
  it has one, is not its first character.
* In the one case that is left nothing but that dot is lost. -/
theorem parts_exact :
    (∀ (t : TypeName) (i : Nat), IsLastDot t.full.toList i →
      t.enclosing.toList = t.full.toList.take i ∧
        t.simple.toList = t.full.toList.drop (i + 1)) ∧
    (∀ enclosing simple : String, '.' ∉ simple.toList →
      (ofParts enclosing simple).enclosing = enclosing ∧
        (ofParts enclosing simple).simple = simple) ∧
    (∀ enclosing simple enclosing' simple' : String,
      '.' ∉ simple.toList → '.' ∉ simple'.toList →
      (ofParts enclosing simple = ofParts enclosing' simple' ↔
        enclosing = enclosing' ∧ simple = simple')) ∧
    (∀ t : TypeName, ofParts t.enclosing t.simple = t ↔ ¬IsLastDot t.full.toList 0) ∧
    ∀ t : TypeName, IsLastDot t.full.toList 0 →
      t.full = "." ++ t.simple ∧ ofParts t.enclosing t.simple = ⟨t.simple⟩ := by
  refine ⟨fun t i h => toList_parts_of_isLastDot h,
    fun enclosing simple h => parts_ofParts h enclosing, ?_, ofParts_parts_iff,
    fun t h => ofParts_parts_of_leading h⟩
  intro enclosing simple enclosing' simple' hsimple hsimple'
  obtain ⟨henclosing, hname⟩ := parts_ofParts hsimple enclosing
  obtain ⟨henclosing', hname'⟩ := parts_ofParts hsimple' enclosing'
  constructor
  · intro h
    rw [h, henclosing'] at henclosing
    rw [h, hname'] at hname
    exact ⟨henclosing.symm, hname.symm⟩
  · rintro ⟨rfl, rfl⟩
    rfl

/-- A namespace that ends in a dot is kept, and a leading dot is lost. -/
theorem parts_exact_dotted :
    (ofParts "Acme." "Person").enclosing = "Acme." ∧
      ofParts "." "Person" ≠ ofParts "" "Person" ∧
      ofParts (⟨".Person"⟩ : TypeName).enclosing (⟨".Person"⟩ : TypeName).simple ≠ ⟨".Person"⟩ := by
  obtain ⟨-, hparts, hsame, hagain, -⟩ := parts_exact
  refine ⟨(hparts "Acme." "Person" (by decide)).1, ?_, ?_⟩
  · rw [Ne, hsame "." "Person" "" "Person" (by decide) (by decide)]
    decide
  · rw [Ne, hagain, not_not]
    exact ⟨rfl, by decide⟩

end TypeName

end TypeSynthesis
