/-
TypeSynthesis.Proofs.LastAttachment — the last body that was attached is the
one that counts.

Bodies are attached to methods in several ways, now to one method and now to
another, and many attempts are refused. What a method writes is up to the
last attachment that was granted; the earlier ones leave nothing behind but a
warning each, and the refused ones nothing at all. Names and scopes may
change at any time: the body does not see them.

* `Step.attaches`, `Blueprint.attachments` — the attachments that a history
  made to each method, read off its operations and their answers.
* `Method.BuildsLike` — two methods write the same, up to their names.
* `Method.Had` — a method and the attachments that were made to it;
  `had_perform`, `had_run` — steps and chains of steps.
* `Blueprint.Recorded` — a type and all attachments to its methods;
  `recorded_perform`, `recorded_performAll` — operations and histories.
* `last_attachment_decides` — what every history leaves.
-/
import Mathlib.Algebra.BigOperators.Group.Finset.Basic
import Mathlib.Algebra.BigOperators.Group.Finset.Piecewise
import TypeSynthesis.Proofs.ForwardAcceptance

namespace TypeSynthesis

/-! ## Replaced bodies -/

/-- The event says that a body took the place of another one. -/
def Event.replaces : Event → Bool
  | .bodyReplaced _ => true
  | _ => false

/-- How often a body took the place of another one. -/
def Journal.replacements (told : Journal) : Nat := told.countP (·.replaces)

namespace Journal

@[simp] theorem replacements_nil : replacements [] = 0 := rfl

@[simp] theorem replacements_append (j k : Journal) :
    (j ++ k).replacements = j.replacements + k.replacements := List.countP_append

/-- A warning is graver than a trace. -/
theorem replacements_of_quiet {told : Journal} (h : told.atLeast .debug = []) :
    told.replacements = 0 := by
  refine List.countP_eq_zero.mpr fun e he hreplaces => ?_
  have hgrave : Level.debug.rank ≤ e.level.rank := by
    cases e with
    | bodyReplaced name =>
      show Level.debug.rank ≤ Level.warn.rank
      decide
    | _ => cases hreplaces
  have hmem : e ∈ told.atLeast .debug := List.mem_filter.mpr ⟨he, decide_eq_true hgrave⟩
  rw [h] at hmem
  cases hmem

end Journal

/-- What a policy has to say is about the receiver. -/
theorem Forwarder.replacements_allow {f : Forwarder} {p : Plan} {warned : Journal}
    (h : f.allow p = .ok warned) : warned.replacements = 0 := by
  unfold allow at h
  split at h
  · cases h
  · obtain rfl := Except.ok.inj h
    rfl
  · obtain rfl := Except.ok.inj h
    rfl

/-! ## Attachments -/

namespace Method

/-- The step gives the method a body, if it is granted. -/
def Step.attaches : Step → Bool
  | .forward _ _ | .attach _ => true
  | .rename _ | .rescope _ => false

variable {m n : Method} {step : Step} {given : List Step}

/-- A new name or scope leaves the body as it is, and nobody hears of it. -/
theorem perform_of_not_attaches (h : step.attaches = false) (m : Method) :
    (m.perform step).result = .ok () ∧ (m.perform step).state.body = m.body ∧
      (m.perform step).told = [] := by
  cases step with
  | rename name => exact ⟨rfl, rfl, rfl⟩
  | rescope scope => exact ⟨rfl, rfl, rfl⟩
  | forward f c => cases h
  | attach body => cases h

theorem replacements_attach (m : Method) (body : Body) :
    (m.attach body).told.replacements = if m.hasBody = true then 1 else 0 := by
  unfold attach
  cases m.hasBody <;> rfl

/-- The body that a granted step attaches depends on the signature of the
method alone, and so does the grant. A body that was there is replaced. -/
theorem perform_of_attaches (hstep : step.attaches = true)
    (h : (m.perform step).result = .ok ()) :
    (m.perform step).state.hasBody = true ∧
      (m.perform step).told.replacements = (if m.hasBody = true then 1 else 0) ∧
      ∀ n : Method, n.returns = m.returns → n.parameters = m.parameters →
        (n.perform step).result = .ok () ∧
          (n.perform step).state.body = (m.perform step).state.body := by
  cases step with
  | rename name => cases hstep
  | rescope scope => cases hstep
  | attach body => exact ⟨rfl, m.replacements_attach body, fun n _ _ => ⟨rfl, rfl⟩⟩
  | forward f c =>
    simp only [perform] at h ⊢
    obtain ⟨p, warned, hplan, hallow⟩ := (f.result_forward_eq_ok_iff m c).mp h
    rw [Forwarder.forward_of_allowed hplan hallow]
    refine ⟨rfl, ?_, fun n hreturns hparameters => ?_⟩
    · have hattach := m.replacements_attach (f.thunk p)
      have hwarned := Forwarder.replacements_allow hallow
      show Journal.replacements ([.planned c p.receiver] ++ (warned ++ _)) = _
      rw [Journal.replacements_append, Journal.replacements_append, hwarned, hattach,
        Nat.zero_add]
      exact Nat.zero_add _
    · have htypes : n.parameterTypes = m.parameterTypes := by
        rw [parameterTypes, hparameters]
        rfl
      have hplan' : Plan.make f.registry n c = .ok p :=
        (Plan.make_eq_ok_congr (congrArg _ hreturns) htypes p).mpr hplan
      rw [Forwarder.forward_of_allowed hplan' hallow]
      exact ⟨rfl, rfl⟩

/-! ## Methods that write the same -/

/-- The methods write the same to every encoder and build the same code. When
they fail, they fail alike; only where a fault tells the name of the method
does each tell its own. -/
structure BuildsLike (m n : Method) : Prop where
  emit_eq : ∀ e, m.emitBody e = n.emitBody e
  code_iff : ∀ code, m.buildBody.result = .ok code ↔ n.buildBody.result = .ok code
  state_eq : m.buildBody.state = n.buildBody.state
  fault_eq : ∀ fault, m.buildBody.result = .error fault →
    n.buildBody.result = .error fault ∨
    ∃ returns depth, fault = .depthAtReturn m.displayName returns depth ∧
      n.buildBody.result = .error (.depthAtReturn n.displayName returns depth)

/-- Methods of one signature and one body write the same. -/
theorem buildsLike_of_body_eq (hreturns : m.returns = n.returns)
    (hparameters : m.parameters = n.parameters) (hbody : m.body = n.body)
    (hsome : n.hasBody = true) : m.BuildsLike n := by
  have hemit (e : Encoder) : m.emitBody e = n.emitBody e := by
    obtain ⟨body, hn⟩ := Option.isSome_iff_exists.mp hsome
    rw [hn] at hbody
    simp only [emitBody, hbody, hn, parameterTypes, hparameters]
  constructor
  case emit_eq => exact hemit
  case code_iff =>
    intro code
    rw [buildBody_eq_ok_iff, buildBody_eq_ok_iff, hemit, hreturns]
  case state_eq => exact congrArg (·.state) (hemit .fresh)
  case fault_eq =>
    intro fault h
    have hbuild (k : Method) : k.buildBody.result =
        (k.emitBody .fresh).result.bind fun _ => k.finish (k.emitBody .fresh).state := rfl
    rw [hbuild, hemit] at h
    rw [hbuild]
    cases hr : (n.emitBody .fresh).result with
    | error other =>
      rw [hr] at h
      exact .inl h
    | ok u =>
      rw [hr] at h
      simp only [Except.bind, finish, hreturns] at h ⊢
      by_cases hdepth : (n.emitBody .fresh).state.depth = n.returns.count
      · rw [if_pos hdepth] at h ⊢
        exact .inl h
      · rw [if_neg hdepth] at h ⊢
        obtain rfl := Except.error.inj h
        exact .inr ⟨_, _, rfl, rfl⟩

/-! ## A method and its attachments -/

/-- What attachments have made of a method: it has a body if there were any,
and the last one gives that body to every method of its signature. -/
structure Had (m : Method) (given : List Step) : Prop where
  hasBody_iff : m.hasBody = true ↔ given ≠ []
  last : ∀ step, given.getLast? = some step →
    ∀ n : Method, n.returns = m.returns → n.parameters = m.parameters →
      (n.perform step).result = .ok () ∧ (n.perform step).state.body = m.body

theorem had_nil (h : m.body = none) : m.Had [] := by
  constructor
  case hasBody_iff => simp [hasBody, h]
  case last => intro step hstep; cases hstep

/-- A granted step is one attachment more, or leaves the body alone. -/
theorem had_perform (h : m.Had given) (hgranted : (m.perform step).result = .ok ()) :
    (m.perform step).state.Had (given ++ [step].filter (·.attaches)) ∧
      (given.length - 1) + (m.perform step).told.replacements =
        (given ++ [step].filter (·.attaches)).length - 1 := by
  obtain ⟨-, hreturns, hparameters⟩ := m.perform_keeps step
  cases hstep : step.attaches with
  | false =>
    obtain ⟨-, hbody, htold⟩ := perform_of_not_attaches hstep m
    have hnone : [step].filter (·.attaches) = [] := by simp [hstep]
    rw [hnone, List.append_nil]
    refine ⟨⟨?_, fun last hlast n hr hp => ?_⟩, ?_⟩
    · rw [hasBody, hbody]
      exact h.hasBody_iff
    · rw [hbody]
      exact h.last last hlast n (hr.trans hreturns) (hp.trans hparameters)
    · rw [htold]
      rfl
  | true =>
    obtain ⟨hsome, hcount, hall⟩ := perform_of_attaches hstep hgranted
    have hone : [step].filter (·.attaches) = [step] := by simp [hstep]
    rw [hone]
    refine ⟨⟨by simp [hsome], fun last hlast n hr hp => ?_⟩, ?_⟩
    · rw [List.getLast?_concat, Option.some.injEq] at hlast
      subst hlast
      exact hall n (hr.trans hreturns) (hp.trans hparameters)
    · rw [hcount, List.length_append, List.length_singleton]
      have hnone := h.hasBody_iff
      cases given with
      | nil => simp [show m.hasBody = false by simpa using hnone]
      | cons first rest => simp [show m.hasBody = true by simpa using hnone]

end Method

/-- The steps that a chain took. -/
def Chain.taken {σ τ : Type} (c : Chain σ) (steps : List τ) : List τ :=
  match c.stopped with
  | none => steps
  | some (k, _) => steps.take k

namespace Method

/-- A chain makes the attachments among the steps that it takes; the step at
which it stops makes none. -/
theorem had_run {m : Method} {given : List Step} (h : m.Had given) (steps : List Step) :
    let c := Chain.run perform m steps
    c.state.Had (given ++ (c.taken steps).filter (·.attaches)) ∧
      (given.length - 1) + c.told.replacements =
        (given ++ (c.taken steps).filter (·.attaches)).length - 1 := by
  induction steps generalizing m given with
  | nil => simpa [Chain.taken] using h
  | cons step rest ih =>
    cases hr : (m.perform step).result with
    | error fault =>
      obtain ⟨hstate, hquiet⟩ := m.atomic_perform step fault hr
      rw [Chain.run_cons_error hr]
      simp only [Chain.taken, hstate, Journal.replacements_of_quiet hquiet]
      simpa using h
    | ok u =>
      obtain ⟨hhad, hcount⟩ := had_perform h hr
      obtain ⟨hrest, hsum⟩ := ih hhad
      have htaken : (Chain.run perform m (step :: rest)).taken (step :: rest) =
          step :: (Chain.run perform (m.perform step).state rest).taken rest := by
        rw [Chain.run_cons_ok hr]
        simp only [Chain.taken]
        cases (Chain.run perform (m.perform step).state rest).stopped <;> rfl
      rw [List.append_assoc, ← List.filter_append, List.singleton_append, ← htaken] at hrest hsum
      show Had (Chain.run perform m (step :: rest)).state _ ∧
        _ + (Chain.run perform m (step :: rest)).told.replacements = _
      refine ⟨?_, ?_⟩
      · rw [Chain.run_cons_ok hr] at hrest ⊢
        exact hrest
      · rw [← hsum, ← hcount, Chain.run_cons_ok hr, Journal.replacements_append, Nat.add_assoc]

end Method

/-! ## What tells of no replaced body -/

theorem Chain.replacements_run {σ τ : Type} {perform : σ → τ → Outcome σ Unit}
    (quiet : ∀ s step, (perform s step).told.replacements = 0) (s : σ) (steps : List τ) :
    (run perform s steps).told.replacements = 0 := by
  induction steps generalizing s with
  | nil => rfl
  | cons step rest ih =>
    cases hr : (perform s step).result with
    | error fault =>
      rw [run_cons_error hr]
      exact quiet s step
    | ok u => rw [run_cons_ok hr, Journal.replacements_append, quiet, ih]

theorem Constructor.replacements_perform (known : Registry) (c : Constructor) (step : Step) :
    (c.perform known step).told.replacements = 0 := by
  rcases perform_cases known c step with hblank | ⟨ps, -, htake⟩
  · rw [hblank]
    rfl
  · rw [htake, takeAll]
    split
    · rfl
    · show List.countP _ (ps.map _) = 0
      rw [List.countP_map, List.countP_eq_zero]
      intro p _ hreplaces
      cases hreplaces

theorem Property.replacements_perform (p : Property) (step : Step) :
    (p.perform step).told.replacements = 0 := by
  cases step <;> rfl

/-! ## The attachments of a history -/

namespace Operation

variable {op : Operation} {answer : Except Fault Reply}

/-- The member on which an operation takes steps: the one that it declared,
or the method that it names. -/
def subject? (op : Operation) : Except Fault Reply → Option Nat
  | .ok (.declared d) => some d.id
  | _ => op.stepOn?.map (·.1)

/-- The attachments that the operation made to the method of an id, if it
was answered so. -/
def attachmentsTo (op : Operation) (answer : Except Fault Reply) (id : Nat) : List Method.Step :=
  if op.subject? answer = some id then (op.taken answer).filter (·.attaches) else []

/-- A declaration of a method took the steps that its chain took. -/
theorem taken_method (name : Option String) (returns : ReturnKind) (parameters : List Parameter)
    (steps : List Method.Step) (id : Nat) (c : Chain Method) :
    (method name returns parameters steps).taken (.ok (.declared ⟨id, c.stopped⟩)) =
      c.taken steps := by
  unfold Chain.taken
  cases c.stopped <;> rfl

/-- One that forwards took the step that forwards before them. -/
theorem taken_forwarding (f : Forwarder) (callable : CallableName) (steps : List Method.Step)
    (id : Nat) (c : Chain Method) :
    (forwarding f callable steps).taken (.ok (.declared ⟨id, c.stopped⟩)) =
      .forward f callable :: c.taken steps := by
  unfold Chain.taken
  cases c.stopped <;> rfl

/-- What has no steps on methods in any part takes none. -/
theorem taken_eq_nil (h : op.methodSteps = []) (hcut : ∀ k, (op.cut k).methodSteps = [])
    (answer : Except Fault Reply) : op.taken answer = [] := by
  unfold taken
  split
  · rfl
  · exact hcut _
  · exact h

theorem attachmentsTo_declared (op : Operation) (d : Declared) (i : Nat) :
    op.attachmentsTo (.ok (.declared d)) i =
      if d.id = i then (op.taken (.ok (.declared d))).filter (·.attaches) else [] := by
  simp only [attachmentsTo, subject?, Option.some.injEq]

theorem attachmentsTo_of_none (h : (op.taken answer).filter (·.attaches) = []) (id : Nat) :
    op.attachmentsTo answer id = [] := by
  simp only [attachmentsTo, h, ite_self]

theorem attachmentsTo_of_stepOn {id : Nat} {step : Method.Step} {reply : Reply}
    (on : op.stepOn? = some (id, step)) (nothing_new : ∀ d, reply ≠ .declared d) (i : Nat) :
    op.attachmentsTo (.ok reply) i = if id = i then [step].filter (·.attaches) else [] := by
  have hsteps := methodSteps_of_stepOn on
  cases reply with
  | declared d => exact absurd rfl (nothing_new d)
  | done => simp only [attachmentsTo, subject?, taken, on, hsteps, Option.map_some, Option.some.injEq]
  | «exists» found =>
    simp only [attachmentsTo, subject?, taken, on, hsteps, Option.map_some, Option.some.injEq]

end Operation

namespace Blueprint

/-- The attachments that a history makes to the method of an id, in order. -/
def attachments (b : Blueprint) : List Operation → Nat → List Method.Step
  | [], _ => []
  | op :: rest, id =>
    op.attachmentsTo (b.perform op).result id ++ (b.perform op).state.attachments rest id

/-- A type after these attachments to its methods, of which so many replaced
a body. -/
structure Recorded (b : Blueprint) (given : Nat → List Method.Step) (count : Nat) : Prop where
  had : ∀ (i : Nat) (m : Method), b.methods[i]? = some m → m.Had (given i)
  beyond : ∀ i, b.methods.length ≤ i → given i = []
  counted : count = ∑ i ∈ Finset.range b.methods.length, ((given i).length - 1)

variable {b : Blueprint} {op : Operation} {given : Nat → List Method.Step} {count : Nat}

/-- Where no method and no attachment is new, all stays recorded. -/
theorem Recorded.same (h : b.Recorded given count) {o : Outcome Blueprint Reply}
    (hmethods : o.state.methods = b.methods)
    (hmade : (op.taken o.result).filter (·.attaches) = []) (hquiet : o.told.replacements = 0) :
    o.state.Recorded (fun i => given i ++ op.attachmentsTo o.result i)
      (count + o.told.replacements) := by
  have hgiven : (fun i => given i ++ op.attachmentsTo o.result i) = given := by
    funext i
    rw [Operation.attachmentsTo_of_none hmade, List.append_nil]
  rw [hgiven, hquiet, Nat.add_zero]
  constructor
  case had => rw [hmethods]; exact h.had
  case beyond => rw [hmethods]; exact h.beyond
  case counted => rw [hmethods]; exact h.counted

/-- A new method comes with its own attachments. -/
theorem Recorded.withMethod (h : b.Recorded given count) {m : Method} {made : List Method.Step}
    (hm : m.Had made) {warned : Nat} (hwarned : warned = made.length - 1) :
    (b.withMethod m).Recorded (fun i => given i ++ if b.methods.length = i then made else [])
      (count + warned) := by
  have hnone : given b.methods.length = [] := h.beyond _ le_rfl
  have hlength : (b.withMethod m).methods.length = b.methods.length + 1 := List.length_append
  constructor
  case had =>
    intro i n hn
    by_cases hi : b.methods.length = i
    · subst hi
      obtain rfl : m = n := by simpa [Blueprint.withMethod] using hn
      rwa [if_pos rfl, hnone]
    · have hbound : i < b.methods.length + 1 := hlength ▸ (List.getElem?_eq_some_iff.mp hn).1
      rw [Blueprint.withMethod, List.getElem?_append_left (by omega)] at hn
      rw [if_neg hi, List.append_nil]
      exact h.had i n hn
  case beyond =>
    intro i hi
    rw [hlength] at hi
    rw [if_neg (by omega), h.beyond i (by omega)]
    rfl
  case counted =>
    rw [hlength, Finset.sum_range_succ, if_pos rfl, hnone, List.nil_append, hwarned, h.counted]
    congr 1
    refine Finset.sum_congr rfl fun i hi => ?_
    rw [if_neg (Finset.mem_range.mp hi).ne', List.append_nil]

/-- What a method gets is recorded with what it had. -/
theorem Recorded.setMethod (h : b.Recorded given count) {id : Nat} {m n : Method}
    (found : b.methods[id]? = some m) {made : List Method.Step} (hn : n.Had (given id ++ made))
    {warned : Nat} (hwarned : (given id).length - 1 + warned = (given id ++ made).length - 1) :
    { b with methods := b.methods.set id n }.Recorded
      (fun i => given i ++ if id = i then made else []) (count + warned) := by
  obtain ⟨hid, -⟩ := List.getElem?_eq_some_iff.mp found
  constructor
  case had =>
    intro i k hk
    by_cases hi : id = i
    · subst hi
      obtain rfl : n = k := by simpa [List.getElem?_set, hid] using hk
      rwa [if_pos rfl]
    · rw [List.getElem?_set_ne hi] at hk
      rw [if_neg hi, List.append_nil]
      exact h.had i k hk
  case beyond =>
    intro i hi
    rw [List.length_set] at hi
    rw [if_neg (by omega), h.beyond i hi]
    rfl
  case counted =>
    have hweight (i : Nat) : (given i ++ if id = i then made else []).length - 1 =
        ((given i).length - 1) + if id = i then warned else 0 := by
      by_cases hi : id = i
      · subst hi
        rw [if_pos rfl, if_pos rfl, hwarned]
      · rw [if_neg hi, if_neg hi, List.append_nil, Nat.add_zero]
    have hother : ∑ i ∈ Finset.range b.methods.length, (if id = i then warned else 0) = warned := by
      rw [Finset.sum_ite_eq, if_pos (Finset.mem_range.mpr hid)]
    simp only [List.length_set, hweight]
    rw [Finset.sum_add_distrib, hother, ← h.counted]

/-! ## Operations and histories -/

/-- Every operation keeps the record. -/
theorem recorded_perform (h : b.Recorded given count) (op : Operation) :
    (b.perform op).state.Recorded
      (fun i => given i ++ op.attachmentsTo (b.perform op).result i)
      (count + (b.perform op).told.replacements) := by
  have heffect := b.effect op
  generalize b.perform op = o at heffect
  cases heffect with
  | refused quiet => exact h.same rfl rfl (Journal.replacements_of_quiet quiet)
  | constructor scope steps =>
    refine h.same rfl ?_ ?_
    · exact congrArg (List.filter _) (Operation.taken_eq_nil rfl (fun _ => rfl) _)
    · exact Chain.replacements_run (Constructor.replacements_perform b.registry) _ steps
  | property known =>
    refine h.same rfl ?_ ?_
    · exact congrArg (List.filter _) (Operation.taken_eq_nil rfl (fun _ => rfl) _)
    · exact Chain.replacements_run Property.replacements_perform _ _
  | @method name returns parameters steps known =>
    have hnew : (b.newMethod name returns parameters).Had [] := Method.had_nil rfl
    obtain ⟨hhad, hcount⟩ := Method.had_run hnew steps
    have hmade := funext (Operation.attachmentsTo_declared (.method name returns parameters steps)
      ⟨b.methods.length, (Chain.run Method.perform (b.newMethod name returns parameters) steps).stopped⟩)
    rw [Operation.taken_method] at hmade
    simp only [declaring, Outcome.accept, hmade]
    refine h.withMethod hhad ?_
    simpa using hcount
  | @forwarding f c steps target known attached =>
    have hgranted : ((b.shapedMethod target).perform (.forward f c)).result = .ok () := attached
    obtain ⟨hfirst, hwarned⟩ := Method.had_perform (Method.had_nil rfl) hgranted
    obtain ⟨hhad, hcount⟩ := Method.had_run hfirst steps
    have hmade := funext (Operation.attachmentsTo_declared (.forwarding f c steps)
      ⟨b.methods.length,
        (Chain.run Method.perform (f.forward (b.shapedMethod target) c).state steps).stopped⟩)
    rw [Operation.taken_forwarding] at hmade
    simp only [declaring, Outcome.accept, hmade]
    have hone : [Method.Step.forward f c].filter (·.attaches) = [.forward f c] := rfl
    rw [hone, List.nil_append] at hhad hcount hwarned
    have hquiet : (f.forward (b.shapedMethod target) c).told.replacements = 0 :=
      (Nat.zero_add _).symm.trans hwarned
    refine h.withMethod hhad ?_
    rw [Journal.replacements_append, hquiet]
    exact hcount
  | @step op id m reply step on found granted nothing_new =>
    obtain ⟨hhad, hcount⟩ := Method.had_perform (h.had id m found) granted
    have hmade := funext (Operation.attachmentsTo_of_stepOn on nothing_new)
    show Recorded _ (fun i => given i ++ op.attachmentsTo (.ok reply) i) _
    rw [hmade]
    exact h.setMethod found hhad hcount
  | _ => exact h.same rfl rfl rfl

/-- So does every history. -/
theorem recorded_performAll (h : b.Recorded given count) (ops : List Operation) :
    (b.performAll ops).1.Recorded (fun i => given i ++ b.attachments ops i)
      (count + (b.performAll ops).2.replacements) := by
  -- What was attached before and the count go along with the type.
  induction ops generalizing b given count with
  | nil => simpa [performAll, attachments] using h
  | cons op rest ih =>
    have hrest := ih (recorded_perform h op)
    simp only [List.append_assoc, Nat.add_assoc] at hrest
    simpa only [performAll, attachments, Journal.replacements_append] using hrest

/-- Nothing was attached to a type that is new. -/
theorem recorded_ofScope (known : Registry) (start : Scope) :
    (ofScope known start).Recorded (fun _ => []) 0 := by
  constructor
  case had => intro i m hm; cases hm
  case beyond => intro i _; rfl
  case counted => rfl

end Blueprint

/-! ## The last attachment alone -/

namespace Method

variable {m : Method} {steps : List Step}

/-- New names and scopes are always granted and leave the signature and the
body as they are. -/
theorem run_of_not_attaches (h : ∀ step ∈ steps, step.attaches = false) (m : Method) :
    (Chain.run perform m steps).stopped = none ∧
      (Chain.run perform m steps).state.returns = m.returns ∧
      (Chain.run perform m steps).state.parameters = m.parameters ∧
      (Chain.run perform m steps).state.body = m.body := by
  induction steps generalizing m with
  | nil => exact ⟨rfl, rfl, rfl, rfl⟩
  | cons step rest ih =>
    obtain ⟨hgranted, hbody, -⟩ := perform_of_not_attaches (h step List.mem_cons_self) m
    obtain ⟨-, hreturns, hparameters⟩ := m.perform_keeps step
    obtain ⟨hthrough, hr, hp, hb⟩ :=
      ih (fun s hs => h s (List.mem_cons_of_mem step hs)) (m.perform step).state
    rw [Chain.run_cons_ok hgranted]
    refine ⟨?_, hr.trans hreturns, hp.trans hparameters, hb.trans hbody⟩
    simp only [hthrough, Option.map_none]

/-- A method writes what it would write if the last attachment had been the
only one, whatever it was called before and after. -/
theorem Had.buildsLike_alone {given : List Step} (h : m.Had given) {step : Step}
    (hlast : given.getLast? = some step) (n : Method) (hreturns : n.returns = m.returns)
    (hparameters : n.parameters = m.parameters) {before after : List Step}
    (hbefore : ∀ s ∈ before, s.attaches = false) (hafter : ∀ s ∈ after, s.attaches = false) :
    (Chain.run perform n (before ++ step :: after)).stopped = none ∧
      m.BuildsLike (Chain.run perform n (before ++ step :: after)).state := by
  obtain ⟨hthrough, hr, hp, -⟩ := run_of_not_attaches hbefore n
  have hrun := Chain.run_append hthrough (step :: after)
  generalize (Chain.run perform n before).state = called at hr hp hrun
  -- The attachment is granted to this method as it was to the other one.
  obtain ⟨hgranted, hbody⟩ :=
    h.last step hlast called (hr.trans hreturns) (hp.trans hparameters)
  obtain ⟨-, hr', hp'⟩ := called.perform_keeps step
  obtain ⟨hthrough', hr'', hp'', hbody'⟩ := run_of_not_attaches hafter (called.perform step).state
  rw [Chain.run_cons_ok hgranted] at hrun
  have hstate := congrArg Chain.state hrun
  have hbodies : (Chain.run perform n (before ++ step :: after)).state.body = m.body := by
    rw [hstate]
    exact hbody'.trans hbody
  refine ⟨by simp [hrun, hthrough'], ?_⟩
  have hhas : m.hasBody = true := h.hasBody_iff.mpr (List.ne_nil_of_mem (List.mem_of_getLast? hlast))
  apply buildsLike_of_body_eq
  · rw [hstate]
    exact (hr''.trans (hr'.trans (hr.trans hreturns))).symm
  · rw [hstate]
    exact (hp''.trans (hp'.trans (hp.trans hparameters))).symm
  · exact hbodies.symm
  · rwa [hasBody, hbodies]

end Method

namespace Blueprint

/-- **The last attachment decides**, on every type and after every history of
it. A method has a body exactly when something was attached to it. Then it
writes to every encoder and builds what it would write and build with the
last attachment alone: that one is granted to the method without a body, and
names and scopes before and after it make no difference but for the name that
faults tell. And of all attachments to a method, every one but the first
warned that it replaced a body; no other warning of that kind was given. -/
theorem last_attachment_decides (known : Registry) (start : Scope) (ops : List Operation) :
    let b := (ofScope known start).performAll ops
    let given := (ofScope known start).attachments ops
    (∀ (i : Nat) (m : Method), b.1.methods[i]? = some m →
      (m.hasBody = true ↔ given i ≠ []) ∧
      ∀ step, (given i).getLast? = some step → ∀ name scope before after,
        (∀ s ∈ before ++ after, s.attaches = false) →
          let alone := Chain.run Method.perform
            { m with name := name, visibility := scope, body := none } (before ++ step :: after)
          alone.stopped = none ∧ m.BuildsLike alone.state) ∧
    b.2.replacements = ∑ i ∈ Finset.range b.1.methods.length, ((given i).length - 1) := by
  intro b given
  have hrecorded := recorded_performAll (recorded_ofScope known start) ops
  simp only [List.nil_append, Nat.zero_add] at hrecorded
  refine ⟨fun i m hm => ?_, hrecorded.counted⟩
  have hhad := hrecorded.had i m hm
  refine ⟨hhad.hasBody_iff, ?_⟩
  intro step hlast name scope before after hplain
  have hbefore : ∀ s ∈ before, s.attaches = false := by
    intro s hs
    exact hplain s (List.mem_append_left _ hs)
  have hafter : ∀ s ∈ after, s.attaches = false := by
    intro s hs
    exact hplain s (List.mem_append_right _ hs)
  exact hhad.buildsLike_alone hlast { m with name := name, visibility := scope, body := none }
    rfl rfl hbefore hafter

-- Between two bodies for the first method one is refused, and another method
-- gets its first: one body was replaced.
example :
    let known := Registry.initial
    let ops : List Operation :=
      [.method none .void [] [.attach fun _ => .done ()], .method none .void [] [],
        .forward (.standard known) (some 0) ⟨"Say"⟩, .attach (some 1) (some fun _ => .done ()),
        .attach (some 0) (some fun _ => .fail .methodRequired)]
    ((ofScope known .anywhere).attachments ops 0).length = 2 ∧
      ((ofScope known .anywhere).attachments ops 1).length = 1 ∧
      ((ofScope known .anywhere).performAll ops).2.replacements = 1 := by
  decide

end Blueprint

end TypeSynthesis
