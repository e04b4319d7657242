/-
TypeSynthesis.Proofs.FaithfulJournal — the journal of a type tells what
became of it, and nothing else.

Plans and single instructions are mere traces. Everything graver that is told
while a type is described can be worked out without listening: from what was
granted, from what that changed, and from what a plan says of its receiver.
So the journal can be read instead of the type: it lists the interfaces, and
the parameters of each constructor, in their order.

* `Event.part?` — the part of the type that an event is about.
* `Constructor.due`, `Method.due`, `Chain.due` — what a step on a member has
  to tell, and a chain of them; `Blueprint.due`, `Blueprint.chronicle` — the
  same of an operation and of a history.
* `told_perform` of each — that is told, and nothing else;
  `Blueprint.part?_of_mem_due` — an operation tells of its own part only.
* `Blueprint.Listed` — a list of which the journal tells every entry;
  `Listed.perform`, `Listed.performAll` — operations and histories.
* `journal_faithful` — all of it, for every history.
-/
import TypeSynthesis.Proofs.ConstructorParameters
import TypeSynthesis.Proofs.LastAttachment
import TypeSynthesis.Proofs.PartIndependence

namespace TypeSynthesis

/-! ## Events and parts -/

namespace Event

/-- The part of a type that the event is about. Traces are about none. -/
def part? : Event → Option Part
  | emitted _ | localDeclared .. | planned .. => none
  | markedAbstract _ | markedSealed _ => some .marks
  | extended .. => some .base
  | implemented .. => some .interfaces
  | parameterTaken .. => some .constructors
  | bodyAttached _ | bodyReplaced _ | sentToNull .. => some .methods

/-- The interface that the event says was added. -/
def interface? : Event → Option TypeName
  | implemented _ t => some t
  | _ => none

/-- The parameter that the event says the constructor of that id took. -/
def parameter? (id : Nat) : Event → Option Parameter
  | parameterTaken k p => if k = id then some p else none
  | _ => none

theorem parameter?_parameterTaken (id k : Nat) (ps : List Parameter) :
    (ps.map (parameterTaken k)).filterMap (parameter? id) = if k = id then ps else [] := by
  induction ps with
  | nil => simp
  | cons p rest ih => by_cases hk : k = id <;> simp_all [parameter?]

end Event

/-- Everything but a trace is about some part. -/
theorem Event.isSome_part? (e : Event) :
    e.part?.isSome = decide (Level.debug.rank ≤ e.level.rank) := by
  cases e <;> rfl

/-- What sees no traces sees the same without them. -/
theorem Journal.filterMap_atLeast {α : Type} {view : Event → Option α}
    (blind : ∀ e, e.part? = none → view e = none) (told : Journal) :
    (told.atLeast .debug).filterMap view = told.filterMap view := by
  rw [atLeast, List.filterMap_filter]
  refine List.filterMap_congr fun e _ => ?_
  rw [← e.isSome_part?]
  cases he : e.part? with
  | none => exact (blind e he).symm
  | some p => rfl

/-- What is about a part is told to everyone who hears no traces. -/
theorem Journal.atLeast_eq_self {told : Journal} {p : Part} (h : ∀ e ∈ told, e.part? = some p) :
    told.atLeast .debug = told := by
  refine List.filter_eq_self.mpr fun e he => ?_
  rw [← e.isSome_part?, h e he]
  rfl

/-! ## Chains -/

namespace Chain

variable {σ τ : Type} {perform : σ → τ → Outcome σ Unit} {each : σ → τ → Journal}

/-- What the steps of a chain have to tell up to the first one that is
refused, that one included. -/
def due (perform : σ → τ → Outcome σ Unit) (each : σ → τ → Journal) : σ → List τ → Journal
  | _, [] => []
  | s, step :: rest =>
    each s step ++
      if (perform s step).accepted then due perform each (perform s step).state rest else []

/-- If every step tells what it has to, so does the chain. -/
theorem told_run (h : ∀ s step, (perform s step).told.atLeast .debug = each s step) (s : σ)
    (steps : List τ) : (run perform s steps).told.atLeast .debug = due perform each s steps := by
  induction steps generalizing s with
  | nil => rfl
  | cons step rest ih =>
    rw [due, ← h, Outcome.accepted]
    cases hr : (perform s step).result with
    | error fault =>
      rw [run_cons_error hr]
      exact (List.append_nil _).symm
    | ok u =>
      rw [run_cons_ok hr]
      simp only [Journal.atLeast_append, ih]
      rfl

theorem mem_due {e : Event} {s : σ} {steps : List τ} (h : e ∈ due perform each s steps) :
    ∃ t, ∃ step ∈ steps, e ∈ each t step := by
  induction steps generalizing s with
  | nil => cases h
  | cons step rest ih =>
    rcases List.mem_append.mp h with he | he
    · exact ⟨s, step, List.mem_cons_self, he⟩
    · split at he
      · obtain ⟨t, later, hlater, ht⟩ := ih he
        exact ⟨t, later, List.mem_cons_of_mem _ hlater, ht⟩
      · cases he

end Chain

/-! ## Steps on constructors -/

namespace Constructor

variable {known : Registry} {c d e : Constructor} {told later : Journal}

/-- What a step has to tell: the parameters by which the constructor has
grown, one by one. -/
def due (known : Registry) (c : Constructor) (step : Step) : Journal :=
  ((c.perform known step).state.parameters.drop c.parameters.length).map (.parameterTaken c.id)

/-- A constructor has grown into another one by the parameters that were
told. -/
def Grew (c d : Constructor) (told : Journal) : Prop :=
  ∃ ps, d = c.withParameters ps ∧ told = ps.map (.parameterTaken c.id)

theorem Grew.refl (c : Constructor) : c.Grew c [] := ⟨[], c.withParameters_nil.symm, rfl⟩

theorem Grew.trans (h : c.Grew d told) (hlater : d.Grew e later) : c.Grew e (told ++ later) := by
  obtain ⟨ps, rfl, rfl⟩ := h
  obtain ⟨qs, rfl, rfl⟩ := hlater
  exact ⟨ps ++ qs, c.withParameters_withParameters ps qs, by simp⟩

theorem part?_of_mem_taken (id : Nat) (ps : List Parameter) :
    ∀ e ∈ ps.map (Event.parameterTaken id), e.part? = some .constructors := by
  intro e he
  obtain ⟨p, -, rfl⟩ := List.mem_map.mp he
  rfl

theorem Grew.told_eq (h : c.Grew d told) :
    told.atLeast .debug = (d.parameters.drop c.parameters.length).map (.parameterTaken c.id) := by
  obtain ⟨ps, rfl, rfl⟩ := h
  rw [Journal.atLeast_eq_self (part?_of_mem_taken c.id ps)]
  simp [withParameters]

theorem grew_perform (known : Registry) (c : Constructor) (step : Step) :
    c.Grew (c.perform known step).state (c.perform known step).told := by
  rcases perform_cases known c step with hblank | ⟨ps, -, htake⟩
  · rw [hblank]
    exact .refl c
  · rw [htake]
    by_cases hps : ∀ p ∈ ps, known.knows p.type = true
    · rw [takeAll_of_known hps]
      exact ⟨ps, rfl, rfl⟩
    · obtain ⟨front, p, back, rfl, hfront, hp⟩ := exists_first_unknown hps
      rw [takeAll_of_unknown hfront hp]
      exact .refl c

theorem grew_run (known : Registry) (c : Constructor) (steps : List Step) :
    c.Grew (Chain.run (perform known) c steps).state (Chain.run (perform known) c steps).told := by
  induction steps generalizing c with
  | nil => exact .refl c
  | cons step rest ih =>
    cases hr : (c.perform known step).result with
    | error fault =>
      rw [Chain.run_cons_error hr]
      exact grew_perform known c step
    | ok u =>
      rw [Chain.run_cons_ok hr]
      exact (grew_perform known c step).trans (ih _)

theorem part?_of_mem_due {e : Event} {step : Step} (h : e ∈ c.due known step) :
    e.part? = some .constructors :=
  part?_of_mem_taken _ _ e h

/-- **A step on a constructor** tells what it has to. -/
theorem told_perform (known : Registry) (c : Constructor) (step : Step) :
    (c.perform known step).told.atLeast .debug = c.due known step :=
  (grew_perform known c step).told_eq

end Constructor

/-! ## Steps on methods -/

namespace Method

/-- What is worth a warning about a call that will go to null: the plan says
that no adapter binds the callable. -/
def nullWarning (m : Method) : Step → Journal
  | .forward f c =>
    match (f.plan m c).result with
    | .ok ⟨_, .unbound required owner, _, _⟩ => [.sentToNull c (.unbound required owner)]
    | _ => []
  | _ => []

/-- What a step has to tell: of a body that it attaches, behind one warning
if the call will go to null and one if there was a body before. -/
def due (m : Method) (step : Step) : Journal :=
  if step.attaches ∧ (m.perform step).accepted then
    m.nullWarning step ++ (if m.hasBody then [.bodyReplaced m.displayName] else []) ++
      [.bodyAttached m.displayName]
  else []

/-- A policy that allows a plan warns of what will go to null. -/
theorem nullWarning_of_allowed {m : Method} {f : Forwarder} {c : CallableName} {p : Plan}
    {warned : Journal} (hplan : Plan.make f.registry m c = .ok p)
    (hallow : f.allow p = .ok warned) : m.nullWarning (.forward f c) = warned := by
  obtain ⟨target, -, -, -, rfl⟩ := (Plan.make_eq_ok_iff ..).mp hplan
  rw [nullWarning, f.result_plan, hplan]
  unfold Forwarder.allow at hallow
  cases hreceiver : Receiver.choose target m.parameterTypes with
  | unbound required owner =>
    cases hpolicy : f.policy with
    | reject => simp [hreceiver, hpolicy] at hallow
    | nullReceiver => simpa [hreceiver, hpolicy] using hallow
  | _ => simpa [hreceiver] using hallow

theorem part?_of_mem_nullWarning {m : Method} {step : Step} {e : Event}
    (h : e ∈ m.nullWarning step) : e.part? = some .methods := by
  cases step with
  | forward f c =>
    simp only [nullWarning] at h
    split at h
    · rw [List.mem_singleton.mp h]
      rfl
    · cases h
  | _ => cases h

theorem part?_of_mem_due {m : Method} {step : Step} {e : Event} (h : e ∈ m.due step) :
    e.part? = some .methods := by
  unfold due at h
  split at h
  · simp only [List.mem_append] at h
    rcases h with (hnull | hreplaced) | hattached
    · exact part?_of_mem_nullWarning hnull
    · split at hreplaced
      · rw [List.mem_singleton.mp hreplaced]
        rfl
      · cases hreplaced
    · rw [List.mem_singleton.mp hattached]
      rfl
  · cases h

theorem told_attach (m : Method) (body : Body) :
    (m.attach body).told.atLeast .debug =
      (if m.hasBody then [.bodyReplaced m.displayName] else []) ++ [.bodyAttached m.displayName] := by
  unfold attach
  cases m.hasBody <;> rfl

/-- **A step on a method** tells what it has to. -/
theorem told_perform (m : Method) (step : Step) :
    (m.perform step).told.atLeast .debug = m.due step := by
  cases step with
  | rename name => rfl
  | rescope scope => rfl
  | attach body => exact m.told_attach body
  | forward f c =>
    have haccepted : (m.perform (.forward f c)).accepted = (f.forward m c).result.isOk := rfl
    rw [due, haccepted]
    simp only [perform]
    cases hr : (f.forward m c).result with
    | error fault =>
      obtain ⟨-, hquiet⟩ := f.atomic_forward m c fault hr
      simpa [Except.isOk, Except.toBool] using hquiet
    | ok u =>
      obtain ⟨p, warned, hplan, hallow⟩ := (f.result_forward_eq_ok_iff m c).mp hr
      have hwarned :
          (m.nullWarning (.forward f c)).atLeast .debug = m.nullWarning (.forward f c) :=
        Journal.atLeast_eq_self fun _ => part?_of_mem_nullWarning
      rw [nullWarning_of_allowed hplan hallow] at hwarned ⊢
      rw [Forwarder.forward_of_allowed hplan hallow]
      show Journal.atLeast .debug ([.planned c p.receiver] ++ (warned ++ _)) = _
      rw [Journal.atLeast_append, Journal.atLeast_append, hwarned, told_attach, List.append_assoc]
      rfl

end Method

theorem Property.told_perform (p : Property) (step : Step) :
    (p.perform step).told.atLeast .debug = [] := by
  cases step <;> rfl

theorem Property.told_run (p : Property) (steps : List Step) :
    (Chain.run perform p steps).told.atLeast .debug = [] := by
  rw [Chain.told_run told_perform]
  refine List.eq_nil_iff_forall_not_mem.mpr fun e he => ?_
  obtain ⟨_, _, _, hnone⟩ := Chain.mem_due he
  cases hnone

/-! ## Operations -/

namespace Blueprint

variable {b : Blueprint} {op : Operation} {e : Event}

/-- What an operation has to tell if it is granted and that is the type after
it. -/
def dueOnGrant (b after : Blueprint) : Operation → Journal
  | .markAbstract => [.markedAbstract b.displayName]
  | .markSealed => [.markedSealed b.displayName]
  | .extend t => if b.base = none ∧ after.base = some t then [.extended b.displayName t] else []
  | .implement t =>
    if t ∉ b.interfaces ∧ t ∈ after.interfaces then [.implemented b.displayName t] else []
  | .constructor scope steps =>
    Chain.due (Constructor.perform b.registry) (Constructor.due b.registry) (b.newConstructor scope)
      steps
  | .method name returns parameters steps =>
    Chain.due Method.perform Method.due (b.newMethod name returns parameters) steps
  | .forwarding f c steps =>
    (b.registry.callable? c).toList.flatMap fun target =>
      Chain.due Method.perform Method.due (b.shapedMethod target) (.forward f c :: steps)
  | op =>
    op.stepOn?.toList.flatMap fun call =>
      b.methods[call.1]?.toList.flatMap fun m => m.due call.2

/-- What an operation has to tell: nothing if it is refused. -/
def due (b : Blueprint) (op : Operation) : Journal :=
  if (b.perform op).accepted then b.dueOnGrant (b.perform op).state op else []

theorem dueOnGrant_of_stepOn {id : Nat} {m : Method} {step : Method.Step}
    (hstep : op.stepOn? = some (id, step)) (hm : b.methods[id]? = some m) (after : Blueprint) :
    b.dueOnGrant after op = m.due step := by
  cases op with
  | rescopeMethod | forward | attach => simp [dueOnGrant, hstep, hm]
  | _ => cases hstep

/-- **An operation tells what it has to**, traces aside. -/
theorem told_perform (b : Blueprint) (op : Operation) :
    (b.perform op).told.atLeast .debug = b.due op := by
  have heffect := b.effect op
  unfold due
  generalize b.perform op = o at heffect ⊢
  cases heffect with
  | refused hquiet => exact hquiet
  | rename | rescope | markAbstract | markSealed => rfl
  | extend ht hbase => simp [Journal.atLeast, Event.level, Level.rank, dueOnGrant, hbase]
  | extendAgain ht hbase => simp [Journal.atLeast, dueOnGrant, hbase]
  | implement ht hnew => simp [Journal.atLeast, Event.level, Level.rank, dueOnGrant, hnew]
  | implementAgain ht hold => simp [Journal.atLeast, dueOnGrant, hold]
  | constructor scope steps =>
    exact Chain.told_run (Constructor.told_perform b.registry) (b.newConstructor scope) steps
  | method known => exact Chain.told_run Method.told_perform _ _
  | @forwarding f c steps target known attached =>
    have hall := Chain.told_run Method.told_perform (b.shapedMethod target) (.forward f c :: steps)
    have hgranted : ((b.shapedMethod target).perform (.forward f c)).result = .ok () := attached
    rw [Chain.run_cons_ok hgranted] at hall
    rw [dueOnGrant, known, Option.toList_some, List.flatMap_singleton]
    exact hall
  | property known => exact Property.told_run _ _
  | step step on found granted =>
    simp only [Outcome.accepted_accept, if_true, dueOnGrant_of_stepOn on found]
    exact Method.told_perform _ step
  | absent missing => simp [Journal.atLeast, dueOnGrant, Operation.stepOn?, missing]

/-- What the operations of a history have to tell, one after another. -/
def chronicle (b : Blueprint) : List Operation → Journal
  | [] => []
  | op :: rest => b.due op ++ (b.perform op).state.chronicle rest

theorem told_performAll (b : Blueprint) (ops : List Operation) :
    (b.performAll ops).2.atLeast .debug = b.chronicle ops := by
  induction ops generalizing b with
  | nil => rfl
  | cons op rest ih => rw [performAll, Journal.atLeast_append, told_perform, ih, chronicle]

/-! ## Its own part -/

/-- **An operation tells of its own part only.** -/
theorem part?_of_mem_due (h : e ∈ b.due op) : e.part? = some op.part := by
  have hmethods {m : Method} {steps : List Method.Step}
      (he : e ∈ Chain.due Method.perform Method.due m steps) : e.part? = some .methods := by
    obtain ⟨_, _, -, hdue⟩ := Chain.mem_due he
    exact Method.part?_of_mem_due hdue
  unfold due at h
  split at h
  · cases op with
    | markAbstract | markSealed =>
      rw [List.mem_singleton.mp h]
      rfl
    | extend t | implement t =>
      simp only [dueOnGrant] at h
      split at h
      · rw [List.mem_singleton.mp h]
        rfl
      · cases h
    | constructor scope steps =>
      obtain ⟨_, _, -, hdue⟩ := Chain.mem_due h
      exact Constructor.part?_of_mem_due hdue
    | method name returns parameters steps => exact hmethods h
    | forwarding f c steps =>
      obtain ⟨target, -, hdue⟩ := List.mem_flatMap.mp h
      exact hmethods hdue
    | rename | rescope | property => cases h
    | rescopeMethod | forward | attach =>
      obtain ⟨call, -, hcall⟩ := List.mem_flatMap.mp h
      obtain ⟨m, -, hdue⟩ := List.mem_flatMap.mp hcall
      exact Method.part?_of_mem_due hdue
  · cases h

/-! ## Lists that the journal keeps -/

/-- The parameters of the constructor of an id, if there is one. -/
def parametersOf (b : Blueprint) (id : Nat) : List Parameter :=
  (b.constructor? id).elim [] (·.parameters)

theorem parametersOf_withConstructor (b : Blueprint) (c : Constructor) (id : Nat) :
    (b.withConstructor c).parametersOf id =
      b.parametersOf id ++ if b.constructors.length = id then c.parameters else [] := by
  simp only [parametersOf, constructor?, withConstructor]
  rcases Nat.lt_trichotomy id b.constructors.length with hid | rfl | hid
  · simp [List.getElem?_append_left hid, hid.ne']
  · simp
  · have hbeyond : (b.constructors ++ [c]).length ≤ id := by simp; omega
    simp [List.getElem?_eq_none hbeyond, List.getElem?_eq_none hid.le, hid.ne]

/-- The list belongs to one part of the type, and what an operation adds to
it can be seen in what the operation tells. -/
structure Listed {α : Type} (p : Part) (list : Blueprint → List α) (view : Event → Option α) :
    Prop where
  within : ∀ b : Blueprint, list (b.only p) = list b
  blind : ∀ e : Event, e.part? ≠ some p → view e = none
  told : ∀ (b : Blueprint) (op : Operation), op.part = p →
    list (b.perform op).state = list b ++ (b.perform op).told.filterMap view

theorem listed_interfaces : Listed .interfaces (·.interfaces) Event.interface? := by
  have hblind (e : Event) (he : e.part? ≠ some .interfaces) : e.interface? = none := by
    cases e with
    | implemented => exact absurd rfl he
    | _ => rfl
  constructor
  case within => exact fun b => rfl
  case blind => exact hblind
  case told =>
    intro b op hop
    cases op with
    | implement t =>
      have heffect := b.effect (.implement t)
      generalize b.perform (.implement t) = o at heffect
      cases heffect with
      | refused hquiet =>
        rw [← Journal.filterMap_atLeast (fun e he => hblind e (by simp [he])), hquiet]
        exact (List.append_nil _).symm
      | implement ht hnew => rfl
      | implementAgain ht hold => exact (List.append_nil _).symm
      | step step on => cases on
    | _ => cases hop

theorem listed_parameters (id : Nat) :
    Listed .constructors (·.parametersOf id) (Event.parameter? id) := by
  constructor
  case within => exact fun b => rfl
  case blind =>
    intro e he
    cases e with
    | parameterTaken => exact absurd rfl he
    | _ => rfl
  case told =>
    intro b op hop
    cases op with
    | constructor scope steps =>
      obtain ⟨ps, hstate, htold⟩ :=
        Constructor.grew_run b.registry (b.newConstructor scope) steps
      simp only [perform_constructor, declaring, Outcome.state_accept, Outcome.told_accept,
        List.nil_append, parametersOf_withConstructor, hstate, htold,
        Event.parameter?_parameterTaken]
      rfl
    | _ => cases hop

section Listed

variable {α : Type} {p : Part} {list : Blueprint → List α} {view : Event → Option α}

/-- An operation tells every entry that it adds, and no other. -/
theorem Listed.perform (h : Listed p list view) (b : Blueprint) (op : Operation) :
    list (b.perform op).state = list b ++ (b.perform op).told.filterMap view := by
  by_cases hop : op.part = p
  · exact h.told b op hop
  · have hkept : list (b.perform op).state = list b := by
      rw [← h.within, only_perform_of_ne hop, h.within]
    have hunseen : (b.perform op).told.filterMap view = [] := by
      rw [← Journal.filterMap_atLeast (fun e he => h.blind e (by simp [he])), told_perform]
      refine List.filterMap_eq_nil_iff.mpr fun e he => h.blind e ?_
      rw [part?_of_mem_due he]
      simpa using hop
    rw [hkept, hunseen, List.append_nil]

/-- The journal of a history tells every entry of the list, in order. -/
theorem Listed.performAll (h : Listed p list view) (b : Blueprint) (ops : List Operation) :
    list (b.performAll ops).1 = list b ++ (b.performAll ops).2.filterMap view := by
  induction ops generalizing b with
  | nil => exact (List.append_nil _).symm
  | cons op rest ih =>
    simp only [Blueprint.performAll, List.filterMap_append]
    rw [ih, h.perform, List.append_assoc]

end Listed

/-! ## All together -/

/-- **The journal is faithful.** Take any history of a type that was new, the
operations that were refused included. What it tells, traces aside, is what
its operations have to tell, in their order: nothing if the operation is
refused, and otherwise the mark that is set, the base if the type had none,
the interface if it is new, every parameter that is appended and every body
that is attached. A body is announced behind one warning if it takes the
place of another, and behind one more if it is of a plan whose callable no
adapter binds; these are the only warnings. So the interfaces that are told
are those of the type, in order, and the parameters that are told of a
constructor, with its id and their written form, are those it has, in
order. -/
theorem journal_faithful (known : Registry) (scope : Scope) (ops : List Operation) :
    let start := ofScope known scope
    let after := (start.performAll ops).1
    let told := (start.performAll ops).2
    told.atLeast .debug = start.chronicle ops ∧
    (∀ e ∈ told.atLeast .debug, e.level = .warn ↔
      (∃ name, e = .bodyReplaced name) ∨ ∃ c receiver, e = .sentToNull c receiver) ∧
    told.filterMap Event.interface? = after.interfaces ∧
    ∀ id, told.filterMap (Event.parameter? id) = after.parametersOf id ∧
      ∀ p, (Event.parameterTaken id p).message =
        "constructor #" ++ toString id ++ " takes " ++ p.text := by
  intro start after told
  refine ⟨start.told_performAll ops, ?_, ?_, fun id => ⟨?_, fun p => rfl⟩⟩
  · intro e _
    cases e <;> simp [Event.level]
  · exact (listed_interfaces.performAll start ops).symm
  · exact ((listed_parameters id).performAll start ops).symm

example :
    ((new .initial).performAll [.method none .void [] [.attach fun _ => .done (), .rename "m",
      .attach fun _ => .done ()], .markSealed, .markAbstract, .extend ⟨"Ghost"⟩,
      .constructor none [.takeNamed "a" ⟨"System.Int32"⟩, .takeNamed " " ⟨"System.Int32"⟩]]).2 =
    [.bodyAttached "#0", .bodyReplaced "m", .bodyAttached "m", .markedSealed "<unnamed>",
      .parameterTaken 0 ⟨"a", ⟨"System.Int32"⟩, by decide⟩] := by rfl

end Blueprint

end TypeSynthesis
