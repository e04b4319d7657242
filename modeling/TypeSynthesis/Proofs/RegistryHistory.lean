/-
TypeSynthesis.Proofs.RegistryHistory — what was registered last is what is
known.

A registry keeps two tables, and a registration writes one entry into one of
them. So all that it will ever answer can be read off the list of the
registrations: the last one under a full name counts, and where there is none
the primitive of that name. How a full name was divided into namespace and
simple name leaves no trace.

* `Table.putAll` — many writes; `Table.find?_putAll`, `Table.size_putAll` —
  what is read after them, and how many entries there are.
* `Registration.typeEntry?`, `Registration.callable?` — what a registration
  writes into each table.
* `Registry.types_recordAll`, `Registry.callables_recordAll` — the tables
  after any registrations.
* `Registry.last_registration_counts` — every answer of the registry.
-/
import Mathlib.Data.List.Dedup
import Mathlib.Data.List.Perm.Basic
import TypeSynthesis.Registry

namespace TypeSynthesis

/-! ## Many writes -/

namespace Table

variable {κ α : Type} [DecidableEq κ]

/-- Write the entries in order. -/
def putAll (t : Table κ α) (writes : List (κ × α)) : Table κ α :=
  writes.foldl (fun t w => t.put w.1 w.2) t

/-- The values that the writes give to the key, in order. -/
def valuesFor (writes : List (κ × α)) (key : κ) : List α :=
  (writes.filter (·.1 = key)).map (·.2)

theorem valuesFor_cons (w : κ × α) (writes : List (κ × α)) (key : κ) :
    valuesFor (w :: writes) key =
      if key = w.1 then w.2 :: valuesFor writes key else valuesFor writes key := by
  by_cases h : key = w.1
  · simp [valuesFor, h]
  · simp [valuesFor, h, Ne.symm h]

/-- A read sees the last write under its key, and before any the table as it
was. -/
theorem find?_putAll (t : Table κ α) (writes : List (κ × α)) (key : κ) :
    (t.putAll writes).find? key = (valuesFor writes key).getLast?.or (t.find? key) := by
  induction writes generalizing t with
  | nil => rfl
  | cons w rest ih =>
    rw [putAll, List.foldl_cons, ← putAll, ih, find?_put, valuesFor_cons]
    by_cases h : key = w.1
    · rw [if_pos h, if_pos h, List.getLast?_cons]
      cases (valuesFor rest key).getLast? <;> rfl
    · rw [if_neg h, if_neg h]

/-- Nothing is read that was not written. -/
theorem mem_of_find?_putAll {writes : List (κ × α)} {key : κ} {value : α}
    (h : (empty.putAll writes).find? key = some value) : (key, value) ∈ writes := by
  rw [find?_putAll, find?_empty, Option.or_none] at h
  obtain ⟨w, hw, rfl⟩ := List.mem_map.mp (List.mem_of_getLast? h)
  obtain ⟨hmem, hkey⟩ := List.mem_filter.mp hw
  obtain rfl : w.1 = key := by simpa using hkey
  exact hmem

/-- The keys are those that the table had and those that were written. -/
theorem mem_keys_putAll (t : Table κ α) (writes : List (κ × α)) (key : κ) :
    key ∈ (t.putAll writes).keys ↔ key ∈ writes.map (·.1) ∨ key ∈ t.keys := by
  have hvalues : (valuesFor writes key).getLast?.isSome ↔ key ∈ writes.map (·.1) := by
    simp [valuesFor]
  rw [mem_keys_iff, find?_putAll, Option.isSome_or, Bool.or_eq_true, hvalues, mem_keys_iff]

theorem nodup_keys_putAll {t : Table κ α} (h : t.keys.Nodup) (writes : List (κ × α)) :
    (t.putAll writes).keys.Nodup := by
  induction writes generalizing t with
  | nil => exact h
  | cons w rest ih => exact ih (nodup_keys_put h w.1 w.2)

/-- There are as many entries as distinct keys that were written. -/
theorem size_putAll (writes : List (κ × α)) :
    ((empty : Table κ α).putAll writes).size = (writes.map (·.1)).dedup.length := by
  have hnodup : ((empty : Table κ α).putAll writes).keys.Nodup :=
    nodup_keys_putAll (t := empty) List.nodup_nil writes
  have hperm : ((empty : Table κ α).putAll writes).keys.Perm (writes.map (·.1)).dedup := by
    refine (List.perm_ext_iff_of_nodup hnodup (List.nodup_dedup _)).mpr fun key => ?_
    rw [mem_keys_putAll, List.mem_dedup]
    exact or_iff_left List.not_mem_nil
  rw [← hperm.length_eq, keys, List.length_map]
  rfl

end Table

/-! ## Registrations -/

namespace Registration

/-- The name and the facts of the type that the registration is about. -/
def typeEntry? : Registration → Option (TypeName × TypeInfo)
  | .typeIn enclosing simple info => some (.ofParts enclosing simple, info)
  | .type name info => some (name, info)
  | .callable _ => none

/-- The callable that the registration is about. -/
def callable? : Registration → Option Callable
  | .typeIn .. | .type .. => none
  | .callable c => some c

/-- The facts that registrations give to a full name, in order. -/
def factsFor (regs : List Registration) (full : String) : List TypeInfo :=
  ((regs.filterMap typeEntry?).filter (·.1.full = full)).map (·.2)

end Registration

namespace Registry

/-- The types are written to one table. -/
theorem types_recordAll (r : Registry) (regs : List Registration) :
    (r.recordAll regs).types = r.types.putAll (regs.filterMap Registration.typeEntry?) := by
  induction regs generalizing r with
  | nil => rfl
  | cons reg rest ih =>
    rw [recordAll, List.foldl_cons, ← recordAll, ih]
    cases reg <;> rfl

/-- The callables are written to another. -/
theorem callables_recordAll (r : Registry) (regs : List Registration) :
    (r.recordAll regs).callables =
      r.callables.putAll ((regs.filterMap Registration.callable?).map fun c => (c.name, c)) := by
  induction regs generalizing r with
  | nil => rfl
  | cons reg rest ih =>
    rw [recordAll, List.foldl_cons, ← recordAll, ih]
    cases reg <;> rfl

theorem types_initial :
    initial.types = Table.empty.putAll (Primitive.all.map fun p => (p.typeName, p.info)) := rfl

/-- A new registry knows the primitives and nothing else. -/
theorem type?_initial_eq_some_iff (t : TypeName) (info : TypeInfo) :
    initial.type? t = some info ↔ ∃ p : Primitive, p.typeName = t ∧ p.info = info := by
  constructor
  · intro h
    rw [type?, types_initial] at h
    obtain ⟨p, -, hp⟩ := List.mem_map.mp (Table.mem_of_find?_putAll h)
    obtain ⟨hname, hinfo⟩ := Prod.mk.inj hp
    exact ⟨p, hname, hinfo⟩
  · rintro ⟨p, rfl, rfl⟩
    cases p <;> rfl

variable {regs others : List Registration}

theorem valuesFor_typeEntry? (regs : List Registration) (t : TypeName) :
    Table.valuesFor (regs.filterMap Registration.typeEntry?) t =
      Registration.factsFor regs t.full := by
  simp only [Table.valuesFor, Registration.factsFor, TypeName.full_inj]

/-- The last registration under a full name counts, and before any the
primitive of that name. -/
theorem type?_recordAll_eq_some_iff (regs : List Registration) (t : TypeName) (info : TypeInfo) :
    (initial.recordAll regs).type? t = some info ↔
      (Registration.factsFor regs t.full).getLast? = some info ∨
        Registration.factsFor regs t.full = [] ∧
          ∃ p : Primitive, p.typeName = t ∧ p.info = info := by
  have hfind : (initial.recordAll regs).type? t =
      (Registration.factsFor regs t.full).getLast?.or (initial.type? t) := by
    rw [type?, types_recordAll, Table.find?_putAll, valuesFor_typeEntry?]
    rfl
  rw [hfind, Option.or_eq_some_iff, List.getLast?_eq_none_iff, type?_initial_eq_some_iff]

theorem typeCount_recordAll (regs : List Registration) :
    (initial.recordAll regs).typeCount =
      (Primitive.all.map (·.typeName.full) ++
        (regs.filterMap Registration.typeEntry?).map (·.1.full)).dedup.length := by
  have htypes : (initial.recordAll regs).types = Table.empty.putAll
      ((Primitive.all.map fun p => (p.typeName, p.info)) ++
        regs.filterMap Registration.typeEntry?) := by
    rw [types_recordAll, types_initial, Table.putAll, Table.putAll, Table.putAll, List.foldl_append]
  have hinjective : Function.Injective TypeName.full := fun _ _ h => TypeName.full_inj.mp h
  rw [typeCount, htypes, Table.size_putAll,
    ← List.length_map TypeName.full, ← List.dedup_map_of_injective hinjective]
  simp [Function.comp_def]

theorem knows_iff (r : Registry) (t : TypeName) :
    r.knows t = true ↔ ∃ info, r.type? t = some info := by
  rw [knows, Option.isSome_iff_exists]

/-- A full name has a handle exactly when its type is known. -/
theorem typeNamed?_eq_some_iff (r : Registry) (full : String) (t : TypeName) :
    r.typeNamed? full = some t ↔ t = ⟨full⟩ ∧ ∃ info, r.type? t = some info := by
  by_cases h : r.knows ⟨full⟩ = true
  · rw [typeNamed?, if_pos h, Option.some.injEq]
    constructor
    · rintro rfl
      exact ⟨rfl, (r.knows_iff _).mp h⟩
    · rintro ⟨rfl, -⟩
      rfl
  · rw [typeNamed?, if_neg h]
    constructor
    · rintro ⟨⟩
    · rintro ⟨rfl, hinfo⟩
      exact absurd ((r.knows_iff _).mpr hinfo) h

/-- The last callable under a name counts. -/
theorem callable?_recordAll (regs : List Registration) (c : CallableName) :
    (initial.recordAll regs).callable? c =
      ((regs.filterMap Registration.callable?).filter (·.name = c)).getLast? := by
  rw [callable?, callables_recordAll, Table.find?_putAll, Table.valuesFor, List.filter_map,
    List.map_map]
  simp [Function.comp_def, initial]

/-- Whatever was registered, a callable is found under its own name. -/
theorem name_of_callable? {c : CallableName} {target : Callable}
    (h : (initial.recordAll regs).callable? c = some target) : target.name = c := by
  rw [callable?_recordAll] at h
  simpa using (List.mem_filter.mp (List.mem_of_getLast? h)).2

/-! ## All together -/

/-- **The last registration counts.** Whatever was registered, in whatever
order, with a new registry:

* the facts of a type are those of the last registration that makes up its
  full name, else those of the primitive of that name, and else there are
  none; two ways to divide a full name register the same type;
* a full name has a handle exactly when there are facts of that type, and
  what is told of a type agrees with its facts;
* the number of types is that of the distinct full names among primitives and
  registered types;
* a callable is the last one that was registered under its name, and it has
  that name;
* the types depend on the registrations of types alone, and the callables on
  those of callables. -/
theorem last_registration_counts (regs : List Registration) :
    let r := initial.recordAll regs
    (∀ (t : TypeName) (info : TypeInfo), r.type? t = some info ↔
      (Registration.factsFor regs t.full).getLast? = some info ∨
        Registration.factsFor regs t.full = [] ∧
          ∃ p : Primitive, p.typeName = t ∧ p.info = info) ∧
    (∀ enclosing simple enclosing' simple' info,
      (TypeName.ofParts enclosing simple).full = (TypeName.ofParts enclosing' simple').full →
      r.record (.typeIn enclosing simple info) = r.record (.typeIn enclosing' simple' info)) ∧
    (∀ full t, r.typeNamed? full = some t ↔ t = ⟨full⟩ ∧ ∃ info, r.type? t = some info) ∧
    (∀ t, (r.knows t = true ↔ ∃ info, r.type? t = some info) ∧
      (r.isInterface t = true ↔ ∃ info, r.type? t = some info ∧ info.flavor = .interfaceType) ∧
      (r.isSealed t = true ↔ ∃ info, r.type? t = some info ∧ info.isSealed = true) ∧
      (r.isValueType t = true ↔ ∃ info, r.type? t = some info ∧ info.flavor = .valueType)) ∧
    r.typeCount = (Primitive.all.map (·.typeName.full) ++
      (regs.filterMap Registration.typeEntry?).map (·.1.full)).dedup.length ∧
    (∀ c, r.callable? c =
        ((regs.filterMap Registration.callable?).filter (·.name = c)).getLast? ∧
      ∀ target, r.callable? c = some target → target.name = c) ∧
    (∀ others : List Registration,
      others.filterMap Registration.typeEntry? = regs.filterMap Registration.typeEntry? →
      (initial.recordAll others).types = r.types) ∧
    ∀ others : List Registration,
      others.filterMap Registration.callable? = regs.filterMap Registration.callable? →
      (initial.recordAll others).callables = r.callables := by
  intro r
  refine ⟨type?_recordAll_eq_some_iff regs, ?splits, r.typeNamed?_eq_some_iff,
    fun t => ⟨r.knows_iff t, ?told⟩, typeCount_recordAll regs,
    fun c => ⟨callable?_recordAll regs c, fun target => name_of_callable?⟩, ?types, ?callables⟩
  case splits =>
    intro enclosing simple enclosing' simple' info h
    rw [record, record, TypeName.full_inj.mp h]
  case told =>
    simp [isInterface, isSealed, isValueType, Option.any_eq_true, TypeInfo.isInterface,
      TypeInfo.isValueType]
  case types =>
    intro others h
    rw [types_recordAll, types_recordAll, h]
  case callables =>
    intro others h
    rw [callables_recordAll, callables_recordAll, h]

-- A primitive that is registered again takes its new facts, and is counted once.
example :
    let r := initial.recordAll [.type Primitive.i4.typeName .openClass,
      .typeIn "System" "Int32" .interface]
    r.isInterface Primitive.i4.typeName = true ∧ r.isValueType Primitive.i4.typeName = false ∧
      r.typeCount = 14 := by
  decide

end Registry

end TypeSynthesis
