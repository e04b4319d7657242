/-
TypeSynthesis.Proofs.MemberStability — members stay where and what they are.

A member is known by its id, which is its position among the members of its
kind. That is sound because members are only ever added at the end, and
because what a later step may change of a member is little: its name and its
scopes, the body of a method, further parameters of a constructor.

* `Member.Kept` — what a member keeps for good.
* `Members.Grows` — a member is added, or one is changed and kept;
  `Members.StaysIn`, `Members.Numbered` — what that preserves.
* `Chain.run_of_take`, `declares_of_chain` — a new member, before and after
  the steps that are still to be taken on it.
* `grows_perform`, `grows_cut`, `grows_of_goesOn` — operations, declarations
  under way, and histories only let the members grow.
* `named_performAll`, `named_on_the_way` — the answer of a declaration names
  its member, then and later.
* `members_stable` — all of it, for a history and any that goes on from it.
-/
import Mathlib.Logic.Function.Basic
import Mathlib.Logic.Relation
import TypeSynthesis.Proofs.KnownMentions

namespace TypeSynthesis

/-! ## Members -/

/-- The kinds of members. -/
inductive MemberKind where
  | constructor
  | method
  | property
  deriving DecidableEq, Repr

/-- A member of a type. -/
inductive Member where
  | constructor (c : Constructor)
  | method (m : Method)
  | property (p : Property)

namespace Member

def kind : Member → MemberKind
  | constructor _ => .constructor
  | method _ => .method
  | property _ => .property

def id : Member → Nat
  | constructor c => c.id
  | method m => m.id
  | property p => p.id

/-- The parameters; a property has none. -/
def parameters : Member → List Parameter
  | constructor c => c.parameters
  | method m => m.parameters
  | property _ => []

/-- What a member keeps for good: its id; a constructor its visibility and
the parameters it has, a method what it returns and its parameters, a
property its type. -/
def Kept : Member → Member → Prop
  | constructor c, constructor d =>
    c.id = d.id ∧ c.visibility = d.visibility ∧ c.parameters <+: d.parameters
  | method m, method n => m.id = n.id ∧ m.returns = n.returns ∧ m.parameters = n.parameters
  | property p, property q => p.id = q.id ∧ p.type = q.type
  | _, _ => False

variable {m n o : Member}

theorem Kept.refl (m : Member) : m.Kept m := by
  cases m with
  | constructor c => exact ⟨rfl, rfl, List.prefix_refl _⟩
  | method m => exact ⟨rfl, rfl, rfl⟩
  | property p => exact ⟨rfl, rfl⟩

theorem Kept.trans (h : m.Kept n) (h' : n.Kept o) : m.Kept o := by
  cases m <;> cases n <;> cases o <;> simp only [Kept] at h h' ⊢
  case constructor => exact ⟨h.1.trans h'.1, h.2.1.trans h'.2.1, h.2.2.trans h'.2.2⟩
  case method => exact ⟨h.1.trans h'.1, h.2.1.trans h'.2.1, h.2.2.trans h'.2.2⟩
  case property => exact ⟨h.1.trans h'.1, h.2.trans h'.2⟩

theorem Kept.kind_eq (h : m.Kept n) : m.kind = n.kind := by
  cases m <;> cases n <;> first | rfl | exact h.elim

theorem Kept.id_eq (h : m.Kept n) : m.id = n.id := by
  cases m <;> cases n <;> first | exact h.1 | exact h.elim

/-! ## Steps on members -/

theorem kept_constructor (known : Registry) (c : Constructor) (step : Constructor.Step) :
    (constructor c).Kept (constructor (c.perform known step).state) := by
  rcases Constructor.perform_cases known c step with hblank | ⟨ps, -, htake⟩
  · rw [hblank]
    exact .refl _
  · rw [htake, Constructor.takeAll]
    split
    · exact .refl _
    · exact ⟨rfl, rfl, List.prefix_append _ _⟩

theorem kept_method (m : Method) (step : Method.Step) :
    (method m).Kept (method (m.perform step).state) := by
  obtain ⟨hid, hreturns, hparameters⟩ := m.perform_keeps step
  exact ⟨hid.symm, hreturns.symm, hparameters.symm⟩

theorem kept_property (p : Property) (step : Property.Step) :
    (property p).Kept (property (p.perform step).state) := by
  obtain ⟨hid, htype⟩ := p.perform_keeps step
  exact ⟨hid.symm, htype.symm⟩

end Member

/-- What the first steps of a chain leave is related to what all of them
leave, if every step stays within the relation. -/
theorem Chain.run_of_take {σ τ : Type} {perform : σ → τ → Outcome σ Unit} {R : σ → σ → Prop}
    (refl : ∀ s, R s s) (trans : ∀ {s t u}, R s t → R t u → R s u)
    (related : ∀ s step, R s (perform s step).state) (s : σ) (steps : List τ) (k : Nat) :
    R (run perform s (steps.take k)).state (run perform s steps).state := by
  induction steps generalizing s k with
  | nil => rw [List.take_nil]; exact refl _
  | cons step rest ih =>
    cases k with
    | zero => exact run_keeps (fun t _ u hu => trans hu (related u t)) s (refl s)
    | succ k =>
      rw [List.take_succ_cons]
      cases hr : (perform s step).result with
      | error fault =>
        rw [run_cons_error hr, run_cons_error hr]
        exact refl _
      | ok u =>
        rw [run_cons_ok hr, run_cons_ok hr]
        exact ih _ k

/-! ## Growing members -/

/-- The members of each kind, in the order of their declaration. -/
abbrev Members := MemberKind → List Member

namespace Members

/-- The members and a new one. -/
def add (ms : Members) (m : Member) : Members := Function.update ms m.kind (ms m.kind ++ [m])

/-- The members with another one at a position of its kind. -/
def put (ms : Members) (i : Nat) (m : Member) : Members :=
  Function.update ms m.kind ((ms m.kind).set i m)

/-- Nothing happens, or a member is added whose id is its position, or one
is changed and keeps what it must. -/
inductive Grows : Members → Members → Prop where
  | same (ms : Members) : Grows ms ms
  | added {ms : Members} {m : Member} (next : m.id = (ms m.kind).length) : Grows ms (ms.add m)
  | changed {ms : Members} {i : Nat} {m n : Member} (found : (ms m.kind)[i]? = some m)
      (kept : m.Kept n) : Grows ms (ms.put i n)

/-- Every member is still at its position, and kept. -/
def StaysIn (ms ns : Members) : Prop :=
  ∀ (kind : MemberKind) (i : Nat) (m : Member), (ms kind)[i]? = some m →
    ∃ n, (ns kind)[i]? = some n ∧ m.Kept n

/-- The id of a member is its position. -/
def Numbered (ms : Members) : Prop :=
  ∀ (kind : MemberKind) (i : Nat) (m : Member), (ms kind)[i]? = some m → m.id = i

variable {ms ns os : Members} {m n : Member}

/-- A new member stands after those of its kind. -/
theorem getElem?_add (ms : Members) (m : Member) (kind : MemberKind) (i : Nat) :
    (ms.add m kind)[i]? =
      if kind = m.kind ∧ i = (ms m.kind).length then some m else (ms kind)[i]? := by
  by_cases hkind : kind = m.kind
  · subst hkind
    rw [add, Function.update_self, List.getElem?_append]
    rcases Nat.lt_trichotomy i (ms m.kind).length with hi | rfl | hi
    · simp [hi, Nat.ne_of_lt hi]
    · simp
    · simp [Nat.not_lt_of_lt hi, Nat.ne_of_gt hi, Nat.sub_ne_zero_of_lt hi]
  · rw [add, Function.update_of_ne hkind]
    simp [hkind]

theorem getElem?_add_length (ms : Members) (m : Member) :
    (ms.add m m.kind)[(ms m.kind).length]? = some m := by
  simp [getElem?_add]

/-- A member that takes the place of another is found there. -/
theorem getElem?_put {i : Nat} (h : i < (ms m.kind).length) (kind : MemberKind) (j : Nat) :
    (ms.put i m kind)[j]? = if kind = m.kind ∧ j = i then some m else (ms kind)[j]? := by
  by_cases hkind : kind = m.kind
  · subst hkind
    rw [put, Function.update_self, List.getElem?_set]
    by_cases hj : j = i
    · subst hj
      simp [h]
    · simp [hj, Ne.symm hj]
  · rw [put, Function.update_of_ne hkind]
    simp [hkind]

theorem length_put (ms : Members) (i : Nat) (m : Member) (kind : MemberKind) :
    (ms.put i m kind).length = (ms kind).length := by
  by_cases hkind : kind = m.kind
  · simp [put, hkind]
  · rw [put, Function.update_of_ne hkind]

/-- A member that was just added may be changed on the spot. -/
theorem add_put (h : m.kind = n.kind) : (ms.add m).put (ms m.kind).length n = ms.add n := by
  simp [put, add, ← h]

theorem StaysIn.refl (ms : Members) : ms.StaysIn ms := fun _ _ m hm => ⟨m, hm, .refl m⟩

theorem StaysIn.trans (h : ms.StaysIn ns) (h' : ns.StaysIn os) : ms.StaysIn os := by
  intro kind i m hm
  obtain ⟨n, hn, hmn⟩ := h kind i m hm
  obtain ⟨o, ho, hno⟩ := h' kind i n hn
  exact ⟨o, ho, hmn.trans hno⟩

/-- Members that stay are not fewer. -/
theorem StaysIn.length_le (h : ms.StaysIn ns) (kind : MemberKind) :
    (ms kind).length ≤ (ns kind).length := by
  by_contra hlt
  obtain ⟨n, hn, -⟩ := h kind (ns kind).length _ (List.getElem?_eq_getElem (by omega))
  simp at hn

theorem Grows.staysIn (h : ms.Grows ns) : ms.StaysIn ns := by
  intro kind i m hm
  have hi := (List.getElem?_eq_some_iff.mp hm).1
  cases h with
  | same => exact ⟨m, hm, .refl m⟩
  | @added new next =>
    refine ⟨m, ?_, .refl m⟩
    rw [getElem?_add, if_neg, hm]
    rintro ⟨rfl, rfl⟩
    exact Nat.lt_irrefl _ hi
  | @changed j old new found kept =>
    rw [kept.kind_eq] at found
    rw [getElem?_put (List.getElem?_eq_some_iff.mp found).1]
    split
    · rename_i hplace
      obtain ⟨rfl, rfl⟩ := hplace
      -- The member that is changed is the one that was found.
      obtain rfl : old = m := Option.some.inj (found.symm.trans hm)
      exact ⟨new, rfl, kept⟩
    · exact ⟨m, hm, .refl m⟩

theorem Grows.numbered (h : ms.Grows ns) (hms : ms.Numbered) : ns.Numbered := by
  intro kind i m hm
  cases h with
  | same => exact hms kind i m hm
  | @added new next =>
    rw [getElem?_add] at hm
    split at hm
    · rename_i hplace
      obtain rfl := Option.some.inj hm
      rw [next, hplace.2]
    · exact hms kind i m hm
  | @changed j old new found kept =>
    rw [getElem?_put (kept.kind_eq ▸ (List.getElem?_eq_some_iff.mp found).1)] at hm
    split at hm
    · rename_i hplace
      obtain rfl := Option.some.inj hm
      rw [← kept.id_eq, hplace.2]
      exact hms _ j old found
    · exact hms kind i m hm

/-- However long members grow, they stay, and their ids are their
positions. -/
theorem staysIn_of_grows (h : Relation.ReflTransGen Grows ms ns) : ms.StaysIn ns := by
  induction h with
  | refl => exact .refl ms
  | tail _ hlast ih => exact ih.trans hlast.staysIn

theorem numbered_of_grows (h : Relation.ReflTransGen Grows ms ns) (hms : ms.Numbered) :
    ns.Numbered := by
  induction h with
  | refl => exact hms
  | tail _ hlast ih => exact hlast.numbered ih

end Members

/-! ## Operations -/

/-- The kind of member that an operation declares. -/
def Operation.declares? : Operation → Option MemberKind
  | .constructor _ _ => some .constructor
  | .method _ _ _ _ | .forwarding _ _ _ => some .method
  | .property _ _ _ _ => some .property
  | _ => none

namespace Blueprint

/-- The members of a blueprint. -/
def members (b : Blueprint) : Members
  | .constructor => b.constructors.map .constructor
  | .method => b.methods.map .method
  | .property => b.properties.map .property

variable {b : Blueprint} {op : Operation} {m : Member}

theorem members_withConstructor (b : Blueprint) (c : Constructor) :
    (b.withConstructor c).members = b.members.add (.constructor c) := by
  funext kind
  cases kind <;> simp [members, withConstructor, Members.add, Member.kind, Function.update]

theorem members_withMethod (b : Blueprint) (m : Method) :
    (b.withMethod m).members = b.members.add (.method m) := by
  funext kind
  cases kind <;> simp [members, withMethod, Members.add, Member.kind, Function.update]

theorem members_withProperty (b : Blueprint) (p : Property) :
    (b.withProperty p).members = b.members.add (.property p) := by
  funext kind
  cases kind <;> simp [members, withProperty, Members.add, Member.kind, Function.update]

theorem members_setMethod (b : Blueprint) (i : Nat) (m : Method) :
    { b with methods := b.methods.set i m }.members = b.members.put i (.method m) := by
  funext kind
  cases kind <;> simp [members, Members.put, Member.kind, Function.update, List.map_set]

/-- The operation declares the member, which comes out like this after all
steps on it. At any point on the way it is there already. -/
structure Declares (b : Blueprint) (op : Operation) (m : Member) : Prop where
  kind_eq : op.declares? = some m.kind
  id_eq : m.id = (b.members m.kind).length
  result_eq : ∃ stopped, (b.perform op).result = .ok (.declared ⟨m.id, stopped⟩)
  members_eq : (b.perform op).state.members = b.members.add m
  on_the_way : ∀ k, ∃ n : Member, n.Kept m ∧
    (b.perform (op.cut k)).state.members = b.members.add n

/-- A declaration that hands its new member to a chain of steps declares what
the chain leaves. -/
theorem declares_of_chain {σ τ : Type} {step : σ → τ → Outcome σ Unit} {start : σ}
    {number : Nat} {add : σ → Blueprint} {told : Journal} (declare : List τ → Operation)
    (hcut : ∀ steps j, (declare steps).cut j = declare (steps.take j))
    (hperform : ∀ steps, b.perform (declare steps) =
      declaring number add told (Chain.run step start steps)) (member : σ → Member)
    (hadd : ∀ s, (add s).members = b.members.add (member s))
    (hkept : ∀ s t, (member s).Kept (member (step s t).state))
    (hkind : ∀ steps, (declare steps).declares? = some (member start).kind)
    (hnumber : number = (b.members (member start).kind).length)
    (hid : (member start).id = number) (steps : List τ) :
    b.Declares (declare steps) (member (Chain.run step start steps).state) := by
  have hway (k : Nat) : (member (Chain.run step start (steps.take k)).state).Kept
      (member (Chain.run step start steps).state) :=
    Chain.run_of_take (R := fun s t => (member s).Kept (member t)) (fun s => .refl _) .trans hkept
      start steps k
  have hstart : (member start).Kept (member (Chain.run step start steps).state) := hway 0
  rw [hnumber] at hid
  constructor
  case kind_eq => rw [hkind, hstart.kind_eq]
  case id_eq => rw [← hstart.id_eq, ← hstart.kind_eq, hid]
  case result_eq => exact ⟨_, by rw [hperform, ← hstart.id_eq, hid, ← hnumber]; rfl⟩
  case members_eq => rw [hperform]; exact hadd _
  case on_the_way =>
    intro k
    refine ⟨_, hway k, ?_⟩
    rw [hcut, hperform]
    exact hadd _

/-- The operation declares nothing: it is no declaration, or one that is
refused before any step on a new member. -/
structure DeclaresNone (b : Blueprint) (op : Operation) : Prop where
  result_ne : ∀ d, (b.perform op).result ≠ .ok (.declared d)
  cut_eq : ∀ k, b.perform (op.cut k) = b.perform op

theorem declaresNone_of_error {τ : Type} {fault : Fault} {told : Journal}
    (declare : List τ → Operation)
    (hcut : ∀ steps j, (declare steps).cut j = declare (steps.take j))
    (hperform : ∀ steps, b.perform (declare steps) = ⟨.error fault, b, told⟩) (steps : List τ) :
    b.DeclaresNone (declare steps) := by
  constructor
  case result_ne => intro d h; rw [hperform] at h; cases h
  case cut_eq => intro k; rw [hcut, hperform, hperform]

theorem result_map_ne_declared {α : Type} {reply : α → Reply}
    (h : ∀ a d, reply a ≠ .declared d) (o : Outcome Blueprint α) (d : Declared) :
    (o.map reply).result ≠ .ok (.declared d) := by
  cases hr : o.result <;> simp [Outcome.map, Except.map, hr, h]

/-- An operation declares one member or none. -/
theorem declares_or_declaresNone (b : Blueprint) (op : Operation) :
    (∃ m, b.Declares op m) ∨ b.DeclaresNone op := by
  cases op with
  | constructor scope steps =>
    exact .inl ⟨_, declares_of_chain (.constructor scope) (fun _ _ => rfl)
      (b.perform_constructor scope) .constructor b.members_withConstructor
      (Member.kept_constructor b.registry) (fun _ => rfl) (by simp [members, Member.kind]) rfl
      steps⟩
  | method name returns parameters steps =>
    cases hknown : b.firstUnknown? (mentions returns parameters) with
    | none =>
      exact .inl ⟨_, declares_of_chain (.method name returns parameters) (fun _ _ => rfl)
        (perform_method hknown name) .method b.members_withMethod Member.kept_method
        (fun _ => rfl) (by simp [members, Member.kind]) rfl steps⟩
    | some fault =>
      have hrefused (steps : List Method.Step) :
          b.perform (.method name returns parameters steps) = .refuse fault b := by
        simp only [perform, declareMethod, hknown]
        rfl
      exact .inr (declaresNone_of_error (.method name returns parameters) (fun _ _ => rfl)
        hrefused steps)
  | forwarding f c steps =>
    cases hc : b.registry.callable? c with
    | none =>
      have hrefused (steps : List Method.Step) :
          b.perform (.forwarding f c steps) = .refuse (.unknownCallable c) b := by
        simp only [perform, declareForwarding, hc]
        rfl
      exact .inr (declaresNone_of_error (.forwarding f c) (fun _ _ => rfl) hrefused steps)
    | some target =>
      cases hr : (f.forward (b.shapedMethod target) c).result with
      | error fault =>
        exact .inr (declaresNone_of_error (.forwarding f c) (fun _ _ => rfl)
          (perform_forwarding_of_error hc hr) steps)
      | ok u =>
        -- The body that is attached first leaves the id alone.
        have hshaped := Member.kept_method (b.shapedMethod target) (.forward f c)
        exact .inl ⟨_, declares_of_chain (.forwarding f c) (fun _ _ => rfl)
          (perform_forwarding hc hr) .method b.members_withMethod Member.kept_method
          (fun _ => rfl) (by simp [members, Member.kind]) hshaped.id_eq.symm steps⟩
  | property type name scope steps =>
    cases hknown : b.firstUnknown? [(.property, type)] with
    | none =>
      exact .inl ⟨_, declares_of_chain (.property type name scope) (fun _ _ => rfl)
        (perform_property hknown name scope) .property b.members_withProperty Member.kept_property
        (fun _ => rfl) (by simp [members, Member.kind]) rfl steps⟩
    | some fault =>
      have hrefused (steps : List Property.Step) :
          b.perform (.property type name scope steps) = .refuse fault b := by
        simp only [perform, declareProperty, hknown]
        rfl
      exact .inr (declaresNone_of_error (.property type name scope) (fun _ _ => rfl)
        hrefused steps)
  | rescopeMethod id scope => exact .inr ⟨result_map_ne_declared (by simp) _, fun _ => rfl⟩
  | _ => exact .inr ⟨result_map_ne_declared (by simp) _, fun _ => rfl⟩

/-- An operation that declares nothing changes one member or none. -/
theorem DeclaresNone.members_cases (h : b.DeclaresNone op) :
    (b.perform op).state.members = b.members ∨
      ∃ (i : Nat) (m n : Member), (b.members m.kind)[i]? = some m ∧ m.Kept n ∧
        (b.perform op).state.members = b.members.put i n := by
  have hne := h.result_ne
  have heffect := b.effect op
  generalize b.perform op = o at heffect hne
  cases heffect with
  | constructor | method | forwarding | property => exact absurd rfl (hne _)
  | @step _ id m _ step _ found =>
    refine .inr ⟨id, .method m, _, ?_, Member.kept_method m step, members_setMethod b id _⟩
    simp [members, Member.kind, found]
  | _ => exact .inl rfl

/-- An operation lets the members grow. -/
theorem grows_perform (b : Blueprint) (op : Operation) :
    b.members.Grows (b.perform op).state.members := by
  rcases b.declares_or_declaresNone op with ⟨m, hm⟩ | hnone
  · rw [hm.members_eq]
    exact .added hm.id_eq
  · rcases hnone.members_cases with hsame | ⟨i, m, n, found, kept, hput⟩
    · rw [hsame]
      exact .same _
    · rw [hput]
      exact .changed found kept

/-- So do the steps of a declaration that are still to be taken. -/
theorem grows_cut (b : Blueprint) (op : Operation) (k : Nat) :
    (b.perform (op.cut k)).state.members.Grows (b.perform op).state.members := by
  rcases b.declares_or_declaresNone op with ⟨m, hm⟩ | hnone
  · obtain ⟨n, hkept, hway⟩ := hm.on_the_way k
    rw [hm.members_eq, hway, ← Members.add_put hkept.kind_eq]
    exact .changed (b.members.getElem?_add_length n) hkept
  · rw [hnone.cut_eq k]
    exact .same _

/-! ## Histories -/

theorem grows_performAll (b : Blueprint) (ops : List Operation) :
    Relation.ReflTransGen Members.Grows b.members (b.performAll ops).1.members := by
  induction ops generalizing b with
  | nil => exact .refl
  | cons op rest ih => exact .head (b.grows_perform op) (ih _)

/-- A history goes on from another: after its last operation, or in the midst
of it, if that is a declaration with steps that are still to be taken. -/
inductive GoesOn : List Operation → List Operation → Prop where
  | after (ops more : List Operation) : GoesOn ops (ops ++ more)
  | within (ops : List Operation) (op : Operation) (k : Nat) (more : List Operation) :
      GoesOn (ops ++ [op.cut k]) (ops ++ op :: more)

theorem grows_of_goesOn {earlier later : List Operation} (h : GoesOn earlier later)
    (b : Blueprint) :
    Relation.ReflTransGen Members.Grows (b.performAll earlier).1.members
      (b.performAll later).1.members := by
  cases h with
  | after ops more =>
    rw [performAll_append]
    exact grows_performAll _ more
  | within ops op k more =>
    rw [performAll_concat, performAll_append]
    exact .head (grows_cut _ op k) (grows_performAll _ more)

theorem numbered_performAll (known : Registry) (start : Scope) (ops : List Operation) :
    ((ofScope known start).performAll ops).1.members.Numbered := by
  refine Members.numbered_of_grows (grows_performAll _ ops) ?_
  intro kind i m hm
  cases kind <;> simp [members, ofScope] at hm

/-- What a declaration answers is where its member is found. -/
theorem Declares.getElem?_eq (h : b.Declares op m) :
    ((b.perform op).state.members m.kind)[m.id]? = some m := by
  rw [h.members_eq, h.id_eq]
  exact b.members.getElem?_add_length m

theorem exists_declares {d : Declared} (h : (b.perform op).result = .ok (.declared d)) :
    ∃ m, b.Declares op m ∧ m.id = d.id := by
  rcases b.declares_or_declaresNone op with ⟨m, hm⟩ | hnone
  · obtain ⟨stopped, hresult⟩ := hm.result_eq
    obtain rfl : d = ⟨m.id, stopped⟩ := by simpa [h] using hresult
    exact ⟨m, hm, rfl⟩
  · exact absurd h (hnone.result_ne d)

/-- Whatever is done later, the answer of a declaration names the member that
was declared. -/
theorem named_performAll {d : Declared} (h : (b.perform op).result = .ok (.declared d))
    (back : List Operation) :
    ∃ m n : Member, op.declares? = some m.kind ∧
      ((b.perform op).state.members m.kind)[d.id]? = some m ∧
      (((b.perform op).state.performAll back).1.members m.kind)[d.id]? = some n ∧
      n.id = d.id ∧ m.Kept n := by
  obtain ⟨m, hm, hid⟩ := exists_declares h
  have hfound := hm.getElem?_eq
  rw [hid] at hfound
  have hstays := Members.staysIn_of_grows (grows_performAll (b.perform op).state back)
  obtain ⟨n, hn, hkept⟩ := hstays m.kind d.id m hfound
  exact ⟨m, n, hm.kind_eq, hfound, hn, hkept.id_eq.symm.trans hid, hkept⟩

/-- However many steps of a declaration were taken, its answer names the
member. -/
theorem named_on_the_way {d : Declared} (h : (b.perform op).result = .ok (.declared d)) (k : Nat) :
    ∃ m : Member, op.declares? = some m.kind ∧ d.id = (b.members m.kind).length ∧ m.id = d.id ∧
      (b.perform (op.cut k)).state.members = b.members.add m ∧
      ((b.perform (op.cut k)).state.members m.kind)[d.id]? = some m := by
  obtain ⟨m, hm, hid⟩ := exists_declares h
  obtain ⟨n, hkept, hway⟩ := hm.on_the_way k
  have hlength : d.id = (b.members n.kind).length := by rw [← hid, hm.id_eq, hkept.kind_eq]
  refine ⟨n, by rw [hm.kind_eq, hkept.kind_eq], hlength, hkept.id_eq.trans hid, hway, ?_⟩
  rw [hway, hlength]
  exact b.members.getElem?_add_length n

/-- What declares nothing adds nothing. -/
theorem length_members_perform (h : ∀ d, (b.perform op).result ≠ .ok (.declared d))
    (kind : MemberKind) :
    ((b.perform op).state.members kind).length = (b.members kind).length := by
  rcases b.declares_or_declaresNone op with ⟨m, hm⟩ | hnone
  · obtain ⟨stopped, hresult⟩ := hm.result_eq
    exact absurd hresult (h _)
  · rcases hnone.members_cases with hsame | ⟨i, m, n, -, -, hput⟩
    · rw [hsame]
    · rw [hput, Members.length_put]

/-- **Members are stable.** After any history of a new type, granted or not:

* the id of a member is its position among the members of its kind;
* whatever history goes on from there, also from the midst of a declaration,
  every member is still at its position and has kept what it must, so no
  kind of member becomes fewer;
* an id that a declaration of the history answered with still names the
  member that was declared;
* a declaration answers with the number of earlier members of its kind; at
  any point of its steps the members are the earlier ones and one more, and
  that answer is where it is found and the id that it has;
* an operation that declares nothing leaves the number of members as it is;
* a change of the scope of the type leaves all members as they are;
* every parameter has a name with a character that is not blank. -/
theorem members_stable (known : Registry) (start : Scope) {earlier later : List Operation}
    (h : GoesOn earlier later) :
    let b := ((ofScope known start).performAll earlier).1
    let c := ((ofScope known start).performAll later).1
    (∀ (kind : MemberKind) (i : Nat) (m : Member), (b.members kind)[i]? = some m →
      m.id = i ∧ ∃ n, (c.members kind)[i]? = some n ∧ m.Kept n) ∧
    (∀ kind : MemberKind, (b.members kind).length ≤ (c.members kind).length) ∧
    (∀ (front back : List Operation) (op : Operation) (d : Declared),
      earlier = front ++ op :: back →
      let declaring := ((ofScope known start).performAll front).1.perform op
      declaring.result = .ok (.declared d) →
      ∃ m n : Member, op.declares? = some m.kind ∧
        (declaring.state.members m.kind)[d.id]? = some m ∧
        (b.members m.kind)[d.id]? = some n ∧ n.id = d.id ∧ m.Kept n) ∧
    (∀ (op : Operation) (d : Declared), (b.perform op).result = .ok (.declared d) → ∀ k,
      ∃ m : Member, op.declares? = some m.kind ∧ d.id = (b.members m.kind).length ∧ m.id = d.id ∧
        (b.perform (op.cut k)).state.members = b.members.add m ∧
        ((b.perform (op.cut k)).state.members m.kind)[d.id]? = some m) ∧
    (∀ op : Operation, (∀ d, (b.perform op).result ≠ .ok (.declared d)) → ∀ kind : MemberKind,
      ((b.perform op).state.members kind).length = (b.members kind).length) ∧
    (∀ scope : Scope, (b.perform (.rescope scope)).state.members = b.members) ∧
    (∀ kind : MemberKind, ∀ m ∈ b.members kind, ∀ p ∈ m.parameters,
      ∃ x ∈ p.name.toList, Text.isBlankChar x = false) := by
  intro b c
  have hstays := Members.staysIn_of_grows (grows_of_goesOn h (ofScope known start))
  refine ⟨?_, hstays.length_le, ?_, ?_, ?_, ?_, ?_⟩
  · intro kind i m hm
    exact ⟨numbered_performAll known start earlier kind i m hm, hstays kind i m hm⟩
  · intro front back op d hhistory declaring hd
    simp only [b, hhistory, performAll_append]
    exact named_performAll hd back
  · exact fun op d hd k => named_on_the_way hd k
  · exact fun op hop kind => length_members_perform hop kind
  · exact fun scope => rfl
  · intro kind m _ p _
    exact Text.isBlank_eq_false_iff.mp p.visible

/-- In the midst of a declaration whose last step is refused. -/
theorem members_stable_within :
    ∃ m : Member, ((((new .initial).performAll [.constructor (some .assembly)
      [.takeNamed "id" ⟨"System.Int32"⟩, .takeNamed " " ⟨"System.Int32"⟩]]).1.members
        .constructor)[0]? = some m) ∧ (Member.constructor ⟨0, .assembly, []⟩).Kept m := by
  have hstable := members_stable .initial .assembly (.within [] (.constructor (some .assembly)
    [.takeNamed "id" ⟨"System.Int32"⟩, .takeNamed " " ⟨"System.Int32"⟩]) 0 [])
  exact (hstable.1 .constructor 0 _ rfl).2

end Blueprint

end TypeSynthesis
