/-
TypeSynthesis.Proofs.ConstructorParameters — parameters taken together and
taken one by one.

A constructor under construction takes several parameters at once or a
single one, handed over whole or by name and type. As long as all their
types are known it makes no difference which. It does when one of them is
not: together, none is taken; one by one, those before it are.

* `Constructor.takeAll_of_known`, `Constructor.takeAll_of_unknown` — several
  parameters at once.
* `Constructor.run_takes_of_known`, `Constructor.run_takes_of_unknown` — the
  same parameters one by one.
* `Blueprint.Underway` — a constructor under construction;
  `Underway.perform_append` — what further steps give.
* `Blueprint.parameters_appended` — all of it, on any type.
-/
import Mathlib.Data.List.Forall2
import TypeSynthesis.Proofs.BlueprintEffects

namespace TypeSynthesis

/-! ## Several parameters at once -/

namespace Constructor

variable {known : Registry} {c : Constructor} {step : Step} {steps : List Step}
  {p : Parameter} {ps front back : List Parameter}

/-- The constructor with more parameters behind those that it has. -/
def withParameters (c : Constructor) (ps : List Parameter) : Constructor :=
  { c with parameters := c.parameters ++ ps }

@[simp] theorem withParameters_nil (c : Constructor) : c.withParameters [] = c := by
  simp [withParameters]

@[simp] theorem withParameters_withParameters (c : Constructor) (ps qs : List Parameter) :
    (c.withParameters ps).withParameters qs = c.withParameters (ps ++ qs) := by
  simp [withParameters]

@[simp] theorem id_withParameters (c : Constructor) (ps : List Parameter) :
    (c.withParameters ps).id = c.id := rfl

/-- Parameters of known types are taken, and told one by one. -/
theorem takeAll_of_known (h : ∀ p ∈ ps, known.knows p.type = true) :
    c.takeAll known ps = .accept () (c.withParameters ps) (ps.map (.parameterTaken c.id)) := by
  have hnone : ps.find? (fun p => !known.knows p.type) = none := by
    simpa [List.find?_eq_none] using h
  rw [takeAll, hnone]
  rfl

/-- Where some type is not known, the first parameter of such a type is
named, and none is taken. -/
theorem takeAll_of_unknown (hfront : ∀ q ∈ front, known.knows q.type = true)
    (hp : known.knows p.type = false) :
    c.takeAll known (front ++ p :: back) =
      .refuse (.unknownType (.parameter p.name) p.type) c := by
  have hsome : (front ++ p :: back).find? (fun q => !known.knows q.type) = some p := by
    rw [List.find?_eq_some_iff_append]
    exact ⟨by simp [hp], front, back, rfl, by simpa using hfront⟩
  rw [takeAll, hsome]

theorem run_takeAll_of_known (h : ∀ p ∈ ps, known.knows p.type = true) (c : Constructor)
    (rest : List Step) :
    Chain.run (perform known) c (.takeAll ps :: rest) =
      let later := Chain.run (perform known) (c.withParameters ps) rest
      ⟨later.stopped.map fun stop => (stop.1 + 1, stop.2), later.state,
        ps.map (.parameterTaken c.id) ++ later.told⟩ := by
  have hstep : c.perform known (.takeAll ps) = _ := takeAll_of_known h
  rw [Chain.run_cons_ok (congrArg Outcome.result hstep), hstep]
  rfl

theorem run_takeAll_of_unknown (hfront : ∀ q ∈ front, known.knows q.type = true)
    (hp : known.knows p.type = false) (c : Constructor) :
    Chain.run (perform known) c [.takeAll (front ++ p :: back)] =
      ⟨some (0, .unknownType (.parameter p.name) p.type), c, []⟩ := by
  have hstep : c.perform known (.takeAll (front ++ p :: back)) = _ := takeAll_of_unknown hfront hp
  rw [Chain.run_cons_error (congrArg Outcome.result hstep), hstep]
  rfl

/-- A list of parameters that are not all of known types has a first one of
an unknown type. -/
theorem exists_first_unknown (h : ¬∀ p ∈ ps, known.knows p.type = true) :
    ∃ front p back, ps = front ++ p :: back ∧ (∀ q ∈ front, known.knows q.type = true) ∧
      known.knows p.type = false := by
  have hsome : (ps.find? fun p => !known.knows p.type).isSome = true := by
    simpa [List.find?_isSome] using h
  obtain ⟨p, hp⟩ := Option.isSome_iff_exists.mp hsome
  obtain ⟨hunknown, front, back, rfl, hfront⟩ := List.find?_eq_some_iff_append.mp hp
  exact ⟨front, p, back, rfl, by simpa using hfront, by simpa using hunknown⟩

/-! ## The same parameters one by one -/

/-- The step takes that one parameter, handed over whole or by its name and
its type. -/
def Step.Takes (p : Parameter) (step : Step) : Prop :=
  step = .take p ∨ step = .takeNamed p.name p.type

/-- The name of a parameter is never blank, so it does not matter how it is
handed over. -/
theorem perform_of_takes (h : step.Takes p) (c : Constructor) :
    c.perform known step = c.takeAll known [p] := by
  rcases h with rfl | rfl
  · rfl
  · simp only [perform, takeNamed, Parameter.make, dif_pos p.visible]
    rfl

theorem perform_of_takes_of_known (h : step.Takes p) (hp : known.knows p.type = true)
    (c : Constructor) :
    c.perform known step = .accept () (c.withParameters [p]) [.parameterTaken c.id p] := by
  rw [perform_of_takes h, takeAll_of_known (List.forall_mem_singleton.mpr hp)]
  rfl

theorem perform_of_takes_of_unknown (h : step.Takes p) (hp : known.knows p.type = false)
    (c : Constructor) :
    c.perform known step = .refuse (.unknownType (.parameter p.name) p.type) c := by
  rw [perform_of_takes h]
  show c.takeAll known ([] ++ [p]) = _
  exact takeAll_of_unknown (List.forall_mem_nil _) hp

/-- One by one, parameters of known types are all taken. -/
theorem run_takes_of_known (h : List.Forall₂ Step.Takes ps steps)
    (hknown : ∀ p ∈ ps, known.knows p.type = true) (c : Constructor) :
    Chain.run (perform known) c steps =
      ⟨none, c.withParameters ps, ps.map (.parameterTaken c.id)⟩ := by
  induction h generalizing c with
  | nil => simp
  | @cons p step ps steps htakes _ ih =>
    obtain ⟨hp, hps⟩ := List.forall_mem_cons.mp hknown
    have hstep := perform_of_takes_of_known htakes hp c
    rw [Chain.run_cons_ok (congrArg Outcome.result hstep), hstep]
    simp [ih hps]

/-- One by one, they are taken up to the first one of an unknown type, which
is named. -/
theorem run_takes_of_unknown (h : List.Forall₂ Step.Takes (front ++ p :: back) steps)
    (hfront : ∀ q ∈ front, known.knows q.type = true) (hp : known.knows p.type = false)
    (c : Constructor) :
    Chain.run (perform known) c steps =
      ⟨some (front.length, .unknownType (.parameter p.name) p.type), c.withParameters front,
        front.map (.parameterTaken c.id)⟩ := by
  induction front generalizing c steps with
  | nil =>
    cases h with
    | cons htakes _ =>
      have hstep := perform_of_takes_of_unknown htakes hp c
      rw [Chain.run_cons_error (congrArg Outcome.result hstep), hstep]
      simp
  | cons q front ih =>
    obtain ⟨hq, hfront⟩ := List.forall_mem_cons.mp hfront
    cases h with
    | cons htakes hrest =>
      have hstep := perform_of_takes_of_known htakes hq c
      rw [Chain.run_cons_ok (congrArg Outcome.result hstep), hstep]
      simp [ih hrest hfront]

end Constructor

/-! ## Under construction -/

namespace Blueprint

variable {b : Blueprint} {scope : Option Scope} {steps : List Constructor.Step} {c : Constructor}

/-- The steps of a declaration so far were all granted, and they led to that
constructor. -/
structure Underway (b : Blueprint) (scope : Option Scope) (steps : List Constructor.Step)
    (c : Constructor) : Prop where
  granted : (b.perform (.constructor scope steps)).result =
    .ok (.declared ⟨b.constructors.length, none⟩)
  state_eq : (b.perform (.constructor scope steps)).state = b.withConstructor c

theorem withConstructor_inj {c d : Constructor} :
    b.withConstructor c = b.withConstructor d ↔ c = d := by
  simp [withConstructor]

/-- Further steps start from the constructor that the steps so far led to. -/
theorem Underway.perform_append (h : b.Underway scope steps c) (more : List Constructor.Step) :
    b.perform (.constructor scope (steps ++ more)) =
      let rest := Chain.run (Constructor.perform b.registry) c more
      .accept
        (.declared
          ⟨b.constructors.length, rest.stopped.map fun stop => (stop.1 + steps.length, stop.2)⟩)
        (b.withConstructor rest.state)
        ((b.perform (.constructor scope steps)).told ++ rest.told) := by
  have hgranted := h.granted
  have hstate := h.state_eq
  rw [perform_constructor] at hgranted hstate
  have hthrough : (Chain.run (Constructor.perform b.registry) (b.newConstructor scope)
      steps).stopped = none := by
    simpa [declaring] using hgranted
  have hc : (Chain.run (Constructor.perform b.registry) (b.newConstructor scope) steps).state = c :=
    withConstructor_inj.mp hstate
  simp only [perform_constructor, Chain.run_append hthrough, hc]
  rfl

/-! ## All together -/

/-- **Parameters are appended** to a constructor under construction all at
once or one by one, on any type. At once, they are taken exactly when all
their types are known; then they stand behind the earlier ones, and nothing
else changes. As long as all types are known, it makes no difference how a
list of parameters is cut: at once, in two parts, or one by one, handed over
whole or by name and type. Where some type is not known, the first parameter
of such a type is named either way. At once, none is taken then; one by one,
exactly those before it. -/
theorem parameters_appended (h : b.Underway scope steps c) (xs ys : List Parameter) :
    let known (ps : List Parameter) := ∀ p ∈ ps, b.registry.knows p.type = true
    let further (more : List Constructor.Step) := b.perform (.constructor scope (steps ++ more))
    let stoppedAt (k : Nat) (fault : Fault) : Except Fault Reply :=
      .ok (.declared ⟨b.constructors.length, some (k, fault)⟩)
    ((further [.takeAll xs]).result = .ok (.declared ⟨b.constructors.length, none⟩) ↔ known xs) ∧
    (known xs → b.Underway scope (steps ++ [.takeAll xs]) (c.withParameters xs)) ∧
    (known (xs ++ ys) →
      further [.takeAll xs, .takeAll ys] = further [.takeAll (xs ++ ys)] ∧
      ∀ each, List.Forall₂ Constructor.Step.Takes (xs ++ ys) each →
        further each = further [.takeAll (xs ++ ys)]) ∧
    (¬known xs → ∃ front p back, xs = front ++ p :: back ∧ known front ∧
      b.registry.knows p.type = false ∧
      let fault := Fault.unknownType (.parameter p.name) p.type
      fault.message = "Invalid argument - " ++
        ("parameter '" ++ p.name ++ "'" ++ " has unresolved type " ++ p.type.full) ∧
      (further [.takeAll xs]).result = stoppedAt steps.length fault ∧
      (further [.takeAll xs]).state = b.withConstructor c ∧
      ∀ each, List.Forall₂ Constructor.Step.Takes xs each →
        (further each).result = stoppedAt (steps.length + front.length) fault ∧
        (further each).state = b.withConstructor (c.withParameters front)) := by
  intro known further stoppedAt
  have hfurther : ∀ more, further more = _ := h.perform_append
  have htaken : known xs → b.Underway scope (steps ++ [.takeAll xs]) (c.withParameters xs) := by
    intro hxs
    have hall := hfurther [.takeAll xs]
    rw [Constructor.run_takeAll_of_known hxs] at hall
    exact ⟨congrArg Outcome.result hall, congrArg Outcome.state hall⟩
  have hrefused : ¬known xs → ∃ front p back, xs = front ++ p :: back ∧ known front ∧
      b.registry.knows p.type = false ∧
      Chain.run (Constructor.perform b.registry) c [.takeAll xs] =
        ⟨some (0, .unknownType (.parameter p.name) p.type), c, []⟩ := by
    intro hxs
    obtain ⟨front, p, back, rfl, hfront, hp⟩ := Constructor.exists_first_unknown hxs
    exact ⟨front, p, back, rfl, hfront, hp, Constructor.run_takeAll_of_unknown hfront hp c⟩
  refine ⟨⟨fun hgranted => ?_, fun hxs => (htaken hxs).granted⟩, htaken, fun hknown => ?_,
    fun hxs => ?_⟩
  · by_contra hxs
    obtain ⟨front, p, back, -, -, -, hrun⟩ := hrefused hxs
    rw [hfurther, hrun] at hgranted
    simp at hgranted
  · obtain ⟨hxs, hys⟩ := List.forall_mem_append.mp hknown
    simp only [hfurther]
    refine ⟨?_, fun each heach => ?_⟩
    · simp [Constructor.run_takeAll_of_known hxs, Constructor.run_takeAll_of_known hys,
        Constructor.run_takeAll_of_known hknown]
    · simp [Constructor.run_takes_of_known heach hknown, Constructor.run_takeAll_of_known hknown]
  · obtain ⟨front, p, back, rfl, hfront, hp, hrun⟩ := hrefused hxs
    refine ⟨front, p, back, rfl, hfront, hp, rfl, ?_, ?_, fun each heach => ?_⟩
    · rw [hfurther, hrun]
      simp [stoppedAt]
    · rw [hfurther, hrun]
      simp
    · rw [hfurther, Constructor.run_takes_of_unknown heach hfront hp]
      simp [stoppedAt, Nat.add_comm]

/-- Behind a first parameter, two of a known type go either way, and one of
an unknown type goes neither way. -/
theorem parameters_appended_behind :
    let int : TypeName := ⟨"System.Int32"⟩
    let first : List Constructor.Step := [.takeNamed "id" int]
    let x : Parameter := ⟨"x", int, by decide⟩
    let y : Parameter := ⟨"y", int, by decide⟩
    let ghost : Parameter := ⟨"ghost", ⟨"Ghost.Type"⟩, by decide⟩
    let b := new .initial
    b.Underway none first ⟨0, .anywhere, [⟨"id", int, by decide⟩]⟩ ∧
      b.perform (.constructor none (first ++ [.take x, .takeNamed "y" int])) =
        b.perform (.constructor none (first ++ [.takeAll [x, y]])) ∧
      (b.perform (.constructor none (first ++ [.takeAll [x, ghost]]))).result ≠
        .ok (.declared ⟨0, none⟩) := by
  intro int first x y ghost b
  have h : b.Underway none first ⟨0, .anywhere, [⟨"id", int, by decide⟩]⟩ := ⟨rfl, rfl⟩
  refine ⟨h, ?_, ?_⟩
  · exact ((parameters_appended h [x] [y]).2.2.1 (by decide)).2 _
      (.cons (.inl rfl) (.cons (.inr rfl) .nil))
  · intro hgranted
    exact absurd ((parameters_appended h [x, ghost] []).1.mp hgranted) (by decide)

end Blueprint

end TypeSynthesis
