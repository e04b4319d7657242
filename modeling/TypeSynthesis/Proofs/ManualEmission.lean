/-
TypeSynthesis.Proofs.ManualEmission — emission by hand.

There are two ways to have the body of a method that forwards written to an
encoder. The method can be asked, whose body has kept the plan and what is
boxed since it was attached and is handed the method's parameter types only
when it is run. Or the forwarder is asked for a plan, now or at any other
time, and to write it for the parameters that it was planned for. Both come
to the same, since nothing that a plan looks at ever changes on a method.

* `Forwarder.result_plan_congr` — what of a method the plan depends on.
* `Method.emitBody_of_planned`, `Method.kind_buildBody_of_planned` — a method
  that has the body of a plan for its own parameters.
* `Blueprint.signature_of_goesOn` — the signature of a method at two moments.
* `Blueprint.body_of_last_forward` — the body that the last attachment left.
* `Blueprint.emission_by_hand` — the two ways, through every history.
-/
import TypeSynthesis.Proofs.LastAttachment
import TypeSynthesis.Proofs.MemberStability
import TypeSynthesis.Proofs.ThunkEmission

namespace TypeSynthesis

/-! ## Bodies of plans -/

/-- Two methods of one signature have the same plans. -/
theorem Forwarder.result_plan_congr {m n : Method} (hreturns : n.returns = m.returns)
    (hparameters : n.parameters = m.parameters) (f : Forwarder) (c : CallableName) (plan : Plan) :
    (f.plan n c).result = .ok plan ↔ (f.plan m c).result = .ok plan := by
  rw [result_plan, result_plan]
  refine Plan.make_eq_ok_congr (congrArg _ hreturns) ?_ plan
  simp only [Method.parameterTypes, hparameters]

namespace Method

variable {m : Method} {f : Forwarder} {plan : Plan} {fault : Fault}

/-- A method with the body of a plan for its own parameters writes what the
forwarder writes of the plan. -/
theorem emitBody_of_planned (hbody : m.body = some (f.thunk plan))
    (hparameters : plan.parameters = m.parameterTypes) (e : Encoder) :
    m.emitBody e = f.emit plan e := by
  rw [emitBody, hbody, Forwarder.emit, hparameters]

/-- When it fails, the encoder has ended or there are too many parameters. -/
theorem kind_emitBody_of_planned (hbody : m.body = some (f.thunk plan))
    (hparameters : plan.parameters = m.parameterTypes) {e : Encoder} (hkept : e.WellKept)
    (h : (m.emitBody e).result = .error fault) : fault.kind = .malformed := by
  rw [emitBody_of_planned hbody hparameters] at h
  obtain ⟨⟨hcount, -⟩ | ⟨-, hkind⟩, -⟩ :=
    (Plan.settled_thunk hkept plan.parameters).fault fault h
  · exact absurd rfl hcount
  · exact hkind

/-- A body that cannot be finished is malformed. -/
theorem kind_finish {e : Encoder} (h : m.finish e = .error fault) : fault.kind = .malformed := by
  unfold finish Encoder.finalize at h
  split at h
  · split at h
    · cases h
    · obtain rfl := Except.error.inj h
      rfl
  · obtain rfl := Except.error.inj h
    rfl

theorem kind_buildBody_of_planned (hbody : m.body = some (f.thunk plan))
    (hparameters : plan.parameters = m.parameterTypes)
    (h : m.buildBody.result = .error fault) : fault.kind = .malformed := by
  simp only [buildBody] at h
  cases hr : (m.emitBody .fresh).result with
  | error other =>
    rw [hr] at h
    obtain rfl := Except.error.inj h
    exact kind_emitBody_of_planned hbody hparameters Encoder.wellKept_fresh hr
  | ok u =>
    rw [hr] at h
    exact kind_finish h

end Method

/-! ## Methods through a history -/

namespace Blueprint

variable {b : Blueprint} {earlier later ops : List Operation} {i : Nat} {m n : Method}
  {f : Forwarder} {c : CallableName}

/-- At two moments of a history a method returns the same and has the same
parameters. -/
theorem signature_of_goesOn (h : GoesOn earlier later)
    (hm : (b.performAll earlier).1.methods[i]? = some m)
    (hn : (b.performAll later).1.methods[i]? = some n) :
    m.returns = n.returns ∧ m.parameters = n.parameters := by
  have hm' : ((b.performAll earlier).1.members .method)[i]? = some (.method m) := by
    simp [members, hm]
  have hn' : ((b.performAll later).1.members .method)[i]? = some (.method n) := by
    simp [members, hn]
  obtain ⟨there, hthere, hkept⟩ := Members.staysIn_of_grows (grows_of_goesOn h b) .method i _ hm'
  obtain rfl := Option.some.inj (hthere.symm.trans hn')
  obtain ⟨-, hreturns, hparameters⟩ := hkept
  exact ⟨hreturns, hparameters⟩

/-- Where the last attachment to a method forwards, the method has the body
of the plan that is made for it. -/
theorem body_of_last_forward (known : Registry) (start : Scope)
    (hm : ((ofScope known start).performAll ops).1.methods[i]? = some m)
    (hlast : ((ofScope known start).attachments ops i).getLast? = some (.forward f c)) :
    ∃ plan, (f.plan m c).result = .ok plan ∧ m.body = some (f.thunk plan) ∧
      plan.parameters = m.parameterTypes := by
  have hrecorded := recorded_performAll (recorded_ofScope known start) ops
  simp only [List.nil_append, Nat.zero_add] at hrecorded
  obtain ⟨hgranted, hbody⟩ := (hrecorded.had i m hm).last _ hlast m rfl rfl
  obtain ⟨plan, hplan, hstate, -, hparameters, -⟩ := Forwarder.forward_fits hgranted
  rw [Method.perform, hstate] at hbody
  exact ⟨plan, hplan, hbody.symm, hparameters⟩

/-! ## All together -/

/-- **Emission by hand is emission by the method**, on every type and
through every history of it. If the last attachment to a method forwards to
a callable, there is a plan for it such that

* the forwarder gives this very plan for the method at every moment before
  and after, whatever happens to the type in between;
* the method has its body write to every encoder what the forwarder writes
  of the plan, with the same result and the same encoder left behind;
* the plan is for the method's own parameters, so that neither the writing
  nor the building of the body fails for their number. -/
theorem emission_by_hand (known : Registry) (start : Scope)
    (hm : ((ofScope known start).performAll ops).1.methods[i]? = some m)
    (hlast : ((ofScope known start).attachments ops i).getLast? = some (.forward f c)) :
    ∃ plan,
      (∀ moment n, GoesOn moment ops ∨ GoesOn ops moment →
        ((ofScope known start).performAll moment).1.methods[i]? = some n →
        (f.plan n c).result = .ok plan) ∧
      (∀ e, m.emitBody e = f.emit plan e) ∧
      plan.parameters = m.parameterTypes ∧
      ∀ callable planned given,
        (∀ qs, (m.emitBody (Encoder.fresh.afterAll qs)).result ≠
          .error (.plannedCount callable planned given)) ∧
        m.buildBody.result ≠ .error (.plannedCount callable planned given) := by
  obtain ⟨plan, hplan, hbody, hparameters⟩ := body_of_last_forward known start hm hlast
  refine ⟨plan, ?_, Method.emitBody_of_planned hbody hparameters, hparameters, ?_⟩
  · intro moment n hmoment hn
    rcases hmoment with hbefore | hafter
    · obtain ⟨hreturns, hps⟩ := signature_of_goesOn hbefore hn hm
      exact (Forwarder.result_plan_congr hreturns hps f c plan).mpr hplan
    · obtain ⟨hreturns, hps⟩ := signature_of_goesOn hafter hm hn
      exact (Forwarder.result_plan_congr hreturns hps f c plan).mp hplan
  · intro callable planned given
    refine ⟨fun qs h => ?_, fun h => ?_⟩
    · have hkind := Method.kind_emitBody_of_planned hbody hparameters
        (Encoder.wellKept_afterAll qs) h
      cases hkind
    · have hkind := Method.kind_buildBody_of_planned hbody hparameters h
      cases hkind

/-- Planned before the attachment; then the method is shown, another
attachment is refused and the type is sealed. -/
theorem emission_by_hand_beforehand :
    let log : Callable :=
      .staticMethod ⟨"Log"⟩ Primitive.object.typeName [Primitive.i4.typeName] .void
    let f : Forwarder := .standard (Registry.initial.putCallable log)
    let early : List Operation :=
      [.method none .void [⟨"level", Primitive.i4.typeName, by decide⟩] []]
    let late : List Operation :=
      [.forward f (some 0) ⟨"Log"⟩, .rescopeMethod 0 .anywhere,
        .forward f (some 0) ⟨"Missing"⟩, .markSealed]
    ∃ n m plan,
      ((ofScope f.registry .assembly).performAll early).1.methods[0]? = some n ∧
      ((ofScope f.registry .assembly).performAll (early ++ late)).1.methods[0]? = some m ∧
      (f.plan n ⟨"Log"⟩).result = .ok plan ∧ ∀ e, m.emitBody e = f.emit plan e := by
  intro log f early late
  have hlast : ((ofScope f.registry .assembly).attachments (early ++ late) 0).getLast? =
      some (.forward f ⟨"Log"⟩) := rfl
  obtain ⟨plan, hplan, hemit, -⟩ := emission_by_hand f.registry .assembly rfl hlast
  exact ⟨_, _, plan, rfl, rfl, hplan early _ (.inl (.after early late)) rfl, hemit⟩

end Blueprint

end TypeSynthesis
