/-
TypeSynthesis.Proofs.HeaderHistory — a type is what was first asked of it.

Scope, markers, base and interfaces of a blueprint can be read off the list
of the operations that were tried on it, without performing any of them.
Which of them were granted does not matter, and neither do the operations on
members.

* `Operation.mark?`, `base?`, `interface?`, `scope?` — what an operation
  asks of the type itself.
* `marked_perform`, `base_perform`, … — what one operation does to each part.
* `marked_performAll`, `base_performAll`, … — what a history does.
* `header_determined` — all parts together, what is granted from then on,
  and the attribute word.
-/
import Mathlib.Data.List.Induction
import TypeSynthesis.Proofs.BlueprintHistories

namespace TypeSynthesis

/-! ## What is asked -/

/-- A marker of a type. -/
inductive Mark where
  | sealed
  | abstract
  deriving DecidableEq, Repr

namespace Mark

/-- The operation that asks for the marker. -/
def operation : Mark → Operation
  | sealed => .markSealed
  | abstract => .markAbstract

/-- The other marker. -/
def other : Mark → Mark
  | sealed => abstract
  | abstract => sealed

theorem other_ne (m : Mark) : m.other ≠ m := by
  cases m <;> decide

theorem eq_or_eq_other (m w : Mark) : m = w ∨ m = w.other := by
  cases m <;> cases w <;> decide

end Mark

namespace Operation

/-- The marker that the operation asks for. -/
def mark? : Operation → Option Mark
  | .markSealed => some .sealed
  | .markAbstract => some .abstract
  | _ => none

/-- The base that the operation asks for. -/
def base? : Operation → Option TypeName
  | .extend t => some t
  | _ => none

/-- The interface that the operation asks for. -/
def interface? : Operation → Option TypeName
  | .implement t => some t
  | _ => none

/-- The scope that the operation gives to the type. -/
def scope? : Operation → Option Scope
  | .rescope scope => some scope
  | _ => none

theorem eq_operation {op : Operation} {m : Mark} (h : op.mark? = some m) : op = m.operation := by
  cases op <;> cases h <;> rfl

theorem asked_concat {α : Type} (ask : Operation → Option α) (front : List Operation)
    (op : Operation) : (front ++ [op]).filterMap ask = front.filterMap ask ++ (ask op).toList := by
  cases h : ask op <;> simp [h]

end Operation

namespace Blueprint

variable {b : Blueprint} {op : Operation} {m : Option Mark} {wanted : Mark}

/-! ## One operation -/

/-- The type bears the marker. -/
def bears (b : Blueprint) : Mark → Bool
  | .sealed => b.isSealed
  | .abstract => b.isAbstract

/-- What the operation does not ask for is the same after it. -/
structure KeepsUnasked (b c : Blueprint) (op : Operation) : Prop where
  marks_eq : op.mark? = none → ∀ w, c.bears w = b.bears w
  base_eq : op.base? = none → c.base = b.base
  interfaces_eq : op.interface? = none → c.interfaces = b.interfaces
  visibility_eq : op.scope? = none → c.visibility = b.visibility

theorem keepsUnasked_perform (b : Blueprint) (op : Operation) :
    b.KeepsUnasked (b.perform op).state op := by
  have heffect := b.effect op
  generalize b.perform op = o at heffect
  constructor
  case marks_eq =>
    intro h w
    cases heffect with
    | markSealed | markAbstract => cases h
    | _ => cases w <;> rfl
  case base_eq =>
    intro h
    cases heffect with
    | extend => cases h
    | _ => rfl
  case interfaces_eq =>
    intro h
    cases heffect with
    | implement => cases h
    | _ => rfl
  case visibility_eq =>
    intro h
    cases heffect with
    | rescope => cases h
    | _ => rfl

/-- A marker is refused to a type that bears the other one. -/
theorem refuses_mark (h : b.bears wanted.other = true) :
    ∃ fault, b.perform wanted.operation = .refuse fault b ∧ fault.kind = .state := by
  cases wanted with
  | sealed => exact ⟨_, b.perform_markSealed.trans (if_pos h), rfl⟩
  | abstract => exact ⟨_, b.perform_markAbstract.trans (if_pos h), rfl⟩

theorem grants_mark (h : b.bears wanted.other = false) :
    (b.perform wanted.operation).result = .ok .done ∧
      ∀ w, (b.perform wanted.operation).state.bears w = (b.bears w || w == wanted) := by
  have hfree : ¬b.bears wanted.other = true := by simp [h]
  cases wanted with
  | sealed =>
    rw [Mark.operation, b.perform_markSealed.trans (if_neg hfree)]
    exact ⟨rfl, fun w => by cases w <;> simp [bears]⟩
  | abstract =>
    rw [Mark.operation, b.perform_markAbstract.trans (if_neg hfree)]
    exact ⟨rfl, fun w => by cases w <;> simp [bears]⟩

/-- The type bears this marker and no other. -/
def Marked (b : Blueprint) (m : Option Mark) : Prop := ∀ w, b.bears w = true ↔ m = some w

/-- The first marker that is asked for stays. -/
theorem marked_perform (h : b.Marked m) (op : Operation) :
    (b.perform op).state.Marked (m.or op.mark?) := by
  intro w
  cases hop : op.mark? with
  | none =>
    rw [Option.or_none, (b.keepsUnasked_perform op).marks_eq hop]
    exact h w
  | some wanted =>
    obtain rfl := Operation.eq_operation hop
    cases hother : b.bears wanted.other with
    | true =>
      obtain ⟨fault, hrefused, -⟩ := refuses_mark hother
      obtain rfl := (h _).mp hother
      rw [hrefused]
      exact h w
    | false =>
      -- A marker that is there already can only be the one that is asked for.
      have hfirst : m.or (some wanted) = some wanted := by
        cases m with
        | none => rfl
        | some v =>
          rcases v.eq_or_eq_other wanted with rfl | rfl
          · rfl
          · simp [(h _).mpr rfl] at hother
      rw [(grants_mark hother).2, hfirst]
      rcases w.eq_or_eq_other wanted with rfl | rfl
      · simp
      · simp [hother, wanted.other_ne, wanted.other_ne.symm]

/-- The base stays; where there is none, one that can be inherited is taken. -/
theorem base_perform (b : Blueprint) (op : Operation) :
    (b.perform op).state.base = b.base.or (op.base?.toList.find? b.registry.inheritable) := by
  cases op with
  | extend t =>
    cases ht : b.registry.inheritable t with
    | false =>
      obtain ⟨fault, hrefused⟩ := refuses_extend ht
      simp [hrefused, Operation.base?, ht]
    | true =>
      rw [perform_extend ht]
      cases hb : b.base with
      | none => simp [Operation.base?, ht]
      | some present => by_cases hp : present = t <;> simp [hp, hb]
  | _ => exact ((b.keepsUnasked_perform _).base_eq rfl).trans Option.or_none.symm

/-- An interface that is not there yet is added at the end. -/
theorem interfaces_perform (b : Blueprint) (op : Operation) :
    (b.perform op).state.interfaces =
      b.interfaces ++
        (op.interface?.toList.filter b.registry.isInterface).removeAll b.interfaces := by
  cases op with
  | implement t =>
    cases ht : b.registry.isInterface t with
    | false =>
      obtain ⟨fault, hrefused⟩ := refuses_implement ht
      simp [hrefused, Operation.interface?, ht]
    | true =>
      rw [perform_implement ht]
      by_cases hm : t ∈ b.interfaces <;> simp [hm, ht, Operation.interface?, List.removeAll]
  | _ => exact ((b.keepsUnasked_perform _).interfaces_eq rfl).trans (List.append_nil _).symm

theorem visibility_perform (b : Blueprint) (op : Operation) :
    (b.perform op).state.visibility = op.scope?.getD b.visibility := by
  cases op with
  | rescope scope => rfl
  | _ => exact (b.keepsUnasked_perform _).visibility_eq rfl

/-! ## Histories -/

-- Histories are taken apart at the end: what the last operation does depends on what was asked
-- before it, not the other way round.
section History

variable (known : Registry) (start : Scope) (ops : List Operation)

theorem marked_performAll :
    ((ofScope known start).performAll ops).1.Marked (ops.findSome? Operation.mark?) := by
  induction ops using List.reverseRecOn with
  | nil => exact fun w => by cases w <;> simp [performAll, ofScope, bears]
  | append_singleton front op ih =>
    rw [performAll_concat, List.findSome?_append]
    simpa using marked_perform ih op

theorem base_performAll :
    ((ofScope known start).performAll ops).1.base =
      (ops.filterMap Operation.base?).find? known.inheritable := by
  induction ops using List.reverseRecOn with
  | nil => rfl
  | append_singleton front op ih =>
    rw [performAll_concat, base_perform, ih, registry_performAll, Operation.asked_concat,
      List.find?_append]
    rfl

theorem interfaces_performAll :
    ((ofScope known start).performAll ops).1.interfaces =
      ((ops.filterMap Operation.interface?).filter known.isInterface).eraseDups := by
  induction ops using List.reverseRecOn with
  | nil => rfl
  | append_singleton front op ih =>
    rw [performAll_concat, interfaces_perform, ih, registry_performAll, Operation.asked_concat,
      List.filter_append, List.eraseDups_append]
    generalize (front.filterMap Operation.interface?).filter known.isInterface = present
    congr 1
    cases op.interface? with
    | none => rfl
    | some t =>
      by_cases ht : known.isInterface t = true
      · by_cases hm : t ∈ present <;> simp [List.removeAll, List.eraseDups_cons, ofScope, ht, hm]
      · simp [ofScope, ht]

theorem visibility_performAll :
    ((ofScope known start).performAll ops).1.visibility =
      (ops.filterMap Operation.scope?).getLast?.getD start := by
  induction ops using List.reverseRecOn with
  | nil => rfl
  | append_singleton front op ih =>
    rw [performAll_concat, visibility_perform, ih, Operation.asked_concat]
    cases op.scope? <;> simp

end History

/-! ## What is granted from then on -/

/-- A type that bears a marker can be given it again, and never the other
one. -/
theorem Marked.operations (h : b.Marked (some wanted)) :
    (b.perform wanted.operation).result = .ok .done ∧
      ∃ fault, (b.perform wanted.other.operation).result = .error fault ∧ fault.kind = .state := by
  have hwanted : b.bears wanted = true := (h _).mpr rfl
  have hother : b.bears wanted.other = false := by
    rw [Bool.eq_false_iff]
    intro hbears
    exact wanted.other_ne (Option.some.inj ((h _).mp hbears)).symm
  have hagain : b.bears wanted.other.other = true := by
    cases wanted <;> exact hwanted
  obtain ⟨fault, hrefused, hkind⟩ := refuses_mark hagain
  exact ⟨(grants_mark hother).1, fault, by rw [hrefused]; rfl, hkind⟩

/-- A type with a base can be given that base again, and never another one. -/
theorem accepted_extend_iff {t : TypeName} (hbase : b.base = some t)
    (ht : b.registry.inheritable t = true) (u : TypeName) :
    (b.perform (.extend u)).accepted = true ↔ u = t := by
  cases hu : b.registry.inheritable u with
  | false =>
    obtain ⟨fault, hrefused⟩ := refuses_extend hu
    have hne : u ≠ t := by
      rintro rfl
      simp [ht] at hu
    simp [hrefused, hne]
  | true =>
    rw [perform_extend hu, hbase]
    by_cases hut : t = u <;> simp [hut, eq_comm]

theorem visibility_eq_visible_iff (s : Scope) :
    s.visibility = TypeAttributes.visible ↔ s = .anywhere := by
  cases s <;> decide

/-- **A history determines the type itself.** Whatever operations were tried
on a new type, granted or not:

* it is sealed, or abstract, exactly when that was asked for first, so it is
  never both, and from then on the same is granted and the other refused;
* its base is the first type that was asked for and can be inherited, and
  from then on exactly that type is granted;
* its interfaces are the interfaces that were asked for, each where it first
  occurred;
* its scope is the last one that it was given;
* its attribute word says exactly this of markers and scope. -/
theorem header_determined (known : Registry) (start : Scope) (ops : List Operation) :
    let b := ((ofScope known start).performAll ops).1
    ((b.isSealed = true ↔ ops.findSome? Operation.mark? = some .sealed) ∧
      (b.isAbstract = true ↔ ops.findSome? Operation.mark? = some .abstract) ∧
      ¬(b.isSealed = true ∧ b.isAbstract = true) ∧
      ∀ m, ops.findSome? Operation.mark? = some m →
        (b.perform m.operation).result = .ok .done ∧
          ∃ fault, (b.perform m.other.operation).result = .error fault ∧ fault.kind = .state) ∧
    (b.base = (ops.filterMap Operation.base?).find? known.inheritable ∧
      ∀ t, b.base = some t → ∀ u, (b.perform (.extend u)).accepted = true ↔ u = t) ∧
    b.interfaces = ((ops.filterMap Operation.interface?).filter known.isInterface).eraseDups ∧
    b.visibility = (ops.filterMap Operation.scope?).getLast?.getD start ∧
    (Word.contains b.attributes TypeAttributes.sealedType = true ↔ b.isSealed = true) ∧
    (Word.contains b.attributes TypeAttributes.abstractType = true ↔ b.isAbstract = true) ∧
    (TypeAttributes.visibilityOf b.attributes = TypeAttributes.visible ↔ b.visibility = .anywhere) := by
  intro b
  have hmarked := marked_performAll known start ops
  have hbase := base_performAll known start ops
  obtain ⟨hsealed, habstract, hvisibility⟩ := b.attributes_bits
  refine ⟨⟨hmarked .sealed, hmarked .abstract, ?_, ?_⟩, ⟨hbase, ?_⟩,
    interfaces_performAll known start ops, visibility_performAll known start ops, ?_, ?_, ?_⟩
  · rintro ⟨hs, ha⟩
    have hfirst := ((hmarked .sealed).mp hs).symm.trans ((hmarked .abstract).mp ha)
    cases hfirst
  · intro m hm
    rw [hm] at hmarked
    exact hmarked.operations
  · intro t ht
    have hopen := List.find?_some (hbase.symm.trans ht)
    exact accepted_extend_iff ht ((registry_performAll _ ops).symm ▸ hopen)
  · rw [hsealed]
  · rw [habstract]
  · rw [hvisibility, visibility_eq_visible_iff]

/-- Sealed and public. -/
example :
    ((new .initial).performAll [.markSealed, .markAbstract, .rescope .anywhere]).1.attributes =
      0x101 := by
  decide

end Blueprint

end TypeSynthesis
