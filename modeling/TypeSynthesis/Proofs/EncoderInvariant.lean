/-
TypeSynthesis.Proofs.EncoderInvariant — what holds of every encoder that
was ever fresh.

Requests come in any order, granted or refused. Whatever they are, the
instructions fit their opcodes, the locals are numbered in order with one
slot for each purpose, and a return stands nowhere but at the end.

* `WellKept` — the invariant; `wellKept_afterAll` — it holds after all
  requests.
* `WellKept.declareLocal_eq` — there are more slots than purposes, so a
  declaration is never refused.
* `typeFor?_afterAll` — a purpose has the type of its first declaration.
* `books_afterAll` — the four parts together: depth and greatest depth,
  operands, locals, returns.
-/
import Mathlib.Data.List.Perm.Subperm
import TypeSynthesis.Proofs.EncoderHistory

namespace TypeSynthesis

theorem Purpose.mem_all (p : Purpose) : p ∈ Purpose.all := by cases p <;> decide

/-- A purpose has no slot exactly when no local is declared for it. -/
theorem Local.slotFor?_eq_none_iff (p : Purpose) (locals : List Local) :
    Local.slotFor? p locals = none ↔ p ∉ locals.map (·.purpose) := by
  simp [Local.slotFor?, List.find?_eq_none]

/-- The type that a request would give to the local of a purpose. -/
def Request.typeOf? (p : Purpose) : Request → Option LocalType
  | .write _ => none
  | .declareLocal other type => if other = p then some type else none

namespace Encoder

/-- The type of the local that is declared for a purpose. -/
def typeFor? (e : Encoder) (p : Purpose) : Option LocalType :=
  (e.locals.find? (·.purpose == p)).map (·.type)

/-! ## The invariant -/

/-- The instructions fit their opcodes, the locals are numbered in order with
one slot for each purpose, and a return ends the body. -/
structure WellKept (e : Encoder) : Prop where
  kind_eq : ∀ i ∈ e.instructions.toList, i.operand.kind = i.opcode.operand
  declared : ∀ i ∈ e.instructions.toList, ∀ s, i.operand = .slot s → e.declares s = true
  slot_eq : ∀ (k : Nat) (l : Local), e.locals[k]? = some l → l.slot.index.toNat = k
  purposes_nodup : (e.locals.map (·.purpose)).Nodup
  no_early_ret : ∀ i ∈ e.instructions.toList.dropLast, i.opcode ≠ .ret
  ended_iff : e.ended = true ↔ e.instructions.toList.getLast?.map (·.opcode) = some .ret

theorem wellKept_fresh : fresh.WellKept := by
  constructor <;> simp

/-- No return stands in a body that is open. -/
theorem WellKept.opcode_ne_ret {e : Encoder} (h : e.WellKept) (hopen : e.ended = false) :
    ∀ i ∈ e.instructions.toList, i.opcode ≠ .ret := by
  intro i hi hret
  rcases List.eq_nil_or_concat e.instructions.toList with hnil | ⟨front, last, hcat⟩
  · simp [hnil] at hi
  · rw [List.concat_eq_append] at hcat
    have hlast : last.opcode ≠ .ret := by
      intro hl
      have hended := h.ended_iff.mpr (by simp [hcat, hl])
      simp [hopen] at hended
    rw [hcat, List.mem_append, List.mem_singleton] at hi
    rcases hi with hi | rfl
    · exact h.no_early_ret i (by simpa [hcat] using hi) hret
    · exact hlast hret

/-- An instruction that is in order keeps the invariant. -/
theorem WellKept.withEntry {e : Encoder} {w : Entry} (h : e.WellKept) (hadm : e.Admits w) :
    (e.withEntry w).WellKept := by
  constructor
  case kind_eq =>
    intro i hi
    rw [instructions_withEntry, List.mem_append, List.mem_singleton] at hi
    rcases hi with hi | rfl
    · exact h.kind_eq i hi
    · exact hadm.kind_eq
  case declared =>
    intro i hi s hs
    rw [instructions_withEntry, List.mem_append, List.mem_singleton] at hi
    rcases hi with hi | rfl
    · exact h.declared i hi s hs
    · exact hadm.declared s hs
  case slot_eq => exact h.slot_eq
  case purposes_nodup => exact h.purposes_nodup
  case no_early_ret =>
    rw [instructions_withEntry, List.dropLast_concat]
    exact h.opcode_ne_ret hadm.notEnded
  case ended_iff =>
    rw [ended_withEntry_iff, instructions_withEntry, List.getLast?_concat, Option.map_some,
      Option.some.injEq]

/-- A local for a new purpose keeps the invariant. -/
theorem WellKept.withLocal {e : Encoder} {p : Purpose} (h : e.WellKept)
    (hnew : e.slotFor? p = none) (hroom : e.locals.length < UInt16.size) (t : LocalType) :
    (e.withLocal p t).WellKept := by
  constructor
  case kind_eq => exact h.kind_eq
  case declared =>
    intro i hi s hs
    have hd := h.declared i hi s hs
    simp only [declares, decide_eq_true_eq, locals_withLocal, List.length_append] at hd ⊢
    omega
  case slot_eq =>
    intro k l hl
    rw [locals_withLocal, List.getElem?_append] at hl
    split at hl
    · exact h.slot_eq k l hl
    · rename_i hk
      obtain ⟨hlt, rfl⟩ := List.getElem?_eq_some_iff.mp hl
      have hkl : k = e.locals.length := by simp at hlt; omega
      simpa [hkl] using UInt16.toNat_ofNat_of_lt' hroom
  case purposes_nodup =>
    have hp : p ∉ e.locals.map (·.purpose) := (Local.slotFor?_eq_none_iff p _).mp hnew
    rw [locals_withLocal, List.map_append, List.nodup_append]
    refine ⟨h.purposes_nodup, by simp, ?_⟩
    intro a ha b hb hab
    have hbp : b = p := by simpa using hb
    subst hab hbp
    exact hp ha
  case no_early_ret => exact h.no_early_ret
  case ended_iff => exact h.ended_iff

/-- Every request keeps the invariant. -/
theorem WellKept.after {e : Encoder} (h : e.WellKept) (q : Request) : (e.after q).WellKept := by
  rcases after_cases e q with ⟨ha, -⟩ | ⟨w, -, hadm, ha⟩ | ⟨p, t, -, -, hnew, hroom, ha⟩
  · rwa [ha]
  · rw [ha]; exact h.withEntry hadm
  · rw [ha]; exact h.withLocal hnew hroom t

theorem WellKept.afterAll {e : Encoder} (h : e.WellKept) (qs : List Request) :
    (e.afterAll qs).WellKept := by
  induction qs generalizing e with
  | nil => exact h
  | cons q rest ih => exact ih (h.after q)

/-- The invariant holds of every encoder that was ever fresh. -/
theorem wellKept_afterAll (qs : List Request) : (fresh.afterAll qs).WellKept :=
  wellKept_fresh.afterAll qs

/-! ## Locals -/

/-- There are no more locals than purposes. -/
theorem WellKept.length_locals_le {e : Encoder} (h : e.WellKept) : e.locals.length ≤ 2 := by
  have hle := (List.subperm_of_subset h.purposes_nodup fun p _ => Purpose.mem_all p).length_le
  simpa [Purpose.all] using hle

theorem WellKept.room {e : Encoder} (h : e.WellKept) : e.locals.length < UInt16.size :=
  Nat.lt_of_le_of_lt h.length_locals_le (by decide)

/-- What a purpose has is the slot of its local. -/
theorem WellKept.declares_of_slotFor? {e : Encoder} (h : e.WellKept) {p : Purpose} {s : Slot}
    (hs : e.slotFor? p = some s) : e.declares s = true := by
  obtain ⟨l, hl, rfl⟩ := Option.map_eq_some_iff.mp hs
  obtain ⟨k, hk, rfl⟩ := List.mem_iff_getElem.mp (List.mem_of_find?_eq_some hl)
  have hslot := h.slot_eq k _ (List.getElem?_eq_getElem hk)
  simpa [declares, hslot] using hk

/-- A declaration is never refused, and it answers with a declared slot. -/
theorem WellKept.declareLocal_eq {e : Encoder} (h : e.WellKept) (p : Purpose) (t : LocalType) :
    ∃ s, (e.declareLocal p t).result = .ok s ∧ (e.declareLocal p t).state.slotFor? p = some s := by
  cases hs : e.slotFor? p with
  | some s => exact ⟨s, by simp [declareLocal_of_slot hs], by simp [declareLocal_of_slot hs, hs]⟩
  | none =>
    refine ⟨⟨.ofNat e.locals.length⟩, by simp [declareLocal_of_new hs h.room], ?_⟩
    have hp : e.locals.find? (·.purpose == p) = none := by
      simpa [slotFor?, Local.slotFor?] using hs
    simp [declareLocal_of_new hs h.room, slotFor?, Local.slotFor?, List.find?_append, hp]

/-- Locals are only added, and only at the end. -/
theorem locals_prefix_after (e : Encoder) (q : Request) : e.locals <+: (e.after q).locals := by
  rcases after_cases e q with ⟨ha, -⟩ | ⟨w, -, -, ha⟩ | ⟨p, t, -, -, -, -, ha⟩
  · simp [ha]
  · simp [ha]
  · simp [ha]

theorem locals_prefix_afterAll (e : Encoder) (qs : List Request) :
    e.locals <+: (e.afterAll qs).locals := by
  induction qs generalizing e with
  | nil => exact List.prefix_refl _
  | cons q rest ih => exact (locals_prefix_after e q).trans (ih _)

/-- A request gives a type to the purpose that it declares, if that has none
yet. -/
theorem WellKept.typeFor?_after {e : Encoder} (h : e.WellKept) (p : Purpose) (q : Request) :
    (e.after q).typeFor? p = (e.typeFor? p).or (q.typeOf? p) := by
  cases q with
  | write m =>
    have hl : (e.after (.write m)).locals = e.locals := by
      rcases after_cases e (.write m) with ⟨ha, -⟩ | ⟨w, -, -, ha⟩ | ⟨_, _, hq, -⟩
      · rw [ha]
      · rw [ha]; rfl
      · cases hq
    simp [typeFor?, hl, Request.typeOf?]
  | declareLocal other t =>
    cases hs : e.slotFor? other with
    | some s =>
      have ha : e.after (.declareLocal other t) = e := by
        simp [Encoder.after, answer, declareLocal_of_slot hs]
      rw [ha]
      by_cases hp : other = p
      · subst hp
        obtain ⟨l, hl, -⟩ := Option.map_eq_some_iff.mp hs
        simp [typeFor?, hl]
      · simp [Request.typeOf?, hp]
    | none =>
      have ha : e.after (.declareLocal other t) = e.withLocal other t := by
        simp [Encoder.after, answer, declareLocal_of_new hs h.room]
      have hnone : e.locals.find? (·.purpose == other) = none := by
        simpa [slotFor?, Local.slotFor?] using hs
      rw [ha]
      by_cases hp : other = p
      · subst hp
        simp [typeFor?, List.find?_append, hnone, Request.typeOf?]
      · simp [typeFor?, List.find?_append, Request.typeOf?, hp]

/-- A purpose has the type of its first declaration, now and ever after. -/
theorem WellKept.typeFor?_afterAll {e : Encoder} (h : e.WellKept) (p : Purpose)
    (qs : List Request) :
    (e.afterAll qs).typeFor? p = (e.typeFor? p).or (qs.findSome? (·.typeOf? p)) := by
  induction qs generalizing e with
  | nil => simp
  | cons q rest ih =>
    rw [afterAll_cons, ih (h.after q), h.typeFor?_after, Option.or_assoc]
    congr 1
    cases hq : q.typeOf? p <;> simp [hq]

/-! ## All together -/

/-- **The books of an encoder are in order** after any requests, granted or
refused. (a) The depth is the sum of pushes less pops of the accepted
instructions, and the greatest depth is the greatest of the sums over the
first so many. (b) Every operand is of the kind that its opcode takes, and
every slot in an operand is declared. (c) Locals are numbered in order, no
two are for one purpose, a purpose keeps the slot and the type of its first
declaration, and no declaration is refused. (d) A return stands at most at
the end; the body can be finished exactly when it does, and nothing changes
on the way. -/
theorem books_afterAll (qs : List Request) :
    let e := fresh.afterAll qs
    let ws := fresh.history qs
    (e.instructions.toList = ws.map (·.instruction) ∧ (e.depth : Int) = Entry.net ws ∧
      IsGreatest (Entry.heights ws) (e.maxDepth : Int)) ∧
    (∀ i ∈ e.instructions.toList, i.operand.kind = i.opcode.operand ∧
      ∀ s, i.operand = .slot s → ∃ l ∈ e.locals, l.slot = s) ∧
    ((∀ (k : Nat) (l : Local), e.locals[k]? = some l → l.slot.index.toNat = k) ∧
      (e.locals.map (·.purpose)).Nodup ∧
      (∀ p, e.typeFor? p = qs.findSome? (·.typeOf? p)) ∧
      (∀ rs, e.locals <+: (e.afterAll rs).locals) ∧
      ∀ p t, ∃ s, (e.declareLocal p t).result = .ok s ∧
        (e.declareLocal p t).state.slotFor? p = some s) ∧
    ((∀ i ∈ e.instructions.toList.dropLast, i.opcode ≠ .ret) ∧
      ∀ c, e.finalize = .ok c ↔
        e.instructions.toList.getLast?.map (·.opcode) = some .ret ∧
          c = ⟨e.instructions.toList, e.locals, e.maxDepth⟩) := by
  intro e ws
  have hkept : e.WellKept := wellKept_afterAll qs
  refine ⟨⟨?_, ?_, isGreatest_maxDepth_afterAll qs⟩, ?_, ⟨hkept.slot_eq, hkept.purposes_nodup, ?_,
    locals_prefix_afterAll e, hkept.declareLocal_eq⟩, hkept.no_early_ret, ?_⟩
  · simpa using toList_instructions_afterAll fresh qs
  · simpa using depth_afterAll fresh qs
  · intro i hi
    refine ⟨hkept.kind_eq i hi, fun s hs => ?_⟩
    have hd : s.index.toNat < e.locals.length := by
      simpa [declares] using hkept.declared i hi s hs
    refine ⟨e.locals[s.index.toNat], List.getElem_mem hd, ?_⟩
    have hslot := hkept.slot_eq _ _ (List.getElem?_eq_getElem hd)
    exact congrArg Slot.mk (UInt16.toNat.inj hslot)
  · intro p
    simpa [typeFor?] using wellKept_fresh.typeFor?_afterAll p qs
  · intro c
    rw [finalize_eq_ok_iff, hkept.ended_iff]

end Encoder

end TypeSynthesis
