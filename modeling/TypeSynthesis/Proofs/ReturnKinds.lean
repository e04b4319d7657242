/-
TypeSynthesis.Proofs.ReturnKinds — a body returns what its method declares.

Whether a body may be finished is decided by one number, the depth of the
stack when the script is done. That this number rules what every run of the
code returns has two reasons: nothing follows a return, so the depth at the
end is the depth at the return; and a run comes to the return with a stack
of exactly that height.

* `Script.requests` — what a script asks of an encoder; `state_run` — it
  does nothing else to it.
* `ended_afterAll_iff`, `before_eq_of_ret` — a body has ended when the last
  accepted instruction is a return, and the depth at it is the last depth.
* `safeRun_of_finalize` — every run of a finished body is safe.
* `buildBody_returns` — when a body can be built, and what its runs return.
-/
import TypeSynthesis.Member.Method
import TypeSynthesis.Proofs.StackSafety

namespace TypeSynthesis

/-! ## What a script asks -/

namespace Script

variable {α : Type}

/-- The requests that a script makes of an encoder, granted or not. What it
asks next may hang on the answers so far. -/
def requests : Script α → Encoder → List Request
  | done _, _ => []
  | fail _, _ => []
  | emit m next, e => .write m :: (next (e.write m).result).requests (e.write m).state
  | declare p t next, e =>
    .declareLocal p t :: (next (e.declareLocal p t).result).requests (e.declareLocal p t).state
  | look next, e => (next e).requests e

/-- A script does nothing to an encoder but what it asks for, whether it
ends well or not. -/
theorem state_run (s : Script α) (e : Encoder) : (s.run e).state = e.afterAll (s.requests e) := by
  induction s generalizing e with
  | done a => rfl
  | fail fault => rfl
  | emit m next ih => rw [run_emit]; exact ih _ _
  | declare p t next ih => rw [run_declare]; exact ih _ _
  | look next ih => exact ih e e

end Script

/-! ## The last instruction -/

namespace Encoder

/-- A body has ended exactly when the last accepted instruction is a
return. -/
theorem ended_afterAll_iff (qs : List Request) :
    (fresh.afterAll qs).ended = true ↔
      ∃ w, (fresh.history qs).getLast? = some w ∧ w.instruction.opcode = .ret := by
  have hinstructions := toList_instructions_afterAll fresh qs
  rw [instructions_fresh, Array.toList_empty, List.nil_append] at hinstructions
  rw [(wellKept_afterAll qs).ended_iff, hinstructions, List.getLast?_map, Option.map_map,
    Option.map_eq_some_iff]
  rfl

/-- All accepted instructions have the stack effect of their opcodes, late
calls apart, when the requests are for such. -/
theorem standard_history {e : Encoder} {qs : List Request} (h : ∀ q ∈ qs, q.Standard) :
    ∀ w ∈ e.history qs, w.Standard := by
  induction qs generalizing e with
  | nil => intro w hw; cases hw
  | cons q rest ih =>
    intro w hw
    rcases List.mem_append.mp hw with hw | hw
    · exact (h q List.mem_cons_self).entryOf? (Option.mem_toList.mp hw)
    · exact ih (fun r hr => h r (List.mem_cons_of_mem q hr)) w hw

/-- A return at the end leaves the depth at which it was written. -/
theorem before_eq_of_ret {qs : List Request} {w : Entry} (hstd : ∀ q ∈ qs, q.Standard)
    (hlast : (fresh.history qs).getLast? = some w) (hret : w.instruction.opcode = .ret) :
    w.before = (fresh.afterAll qs).depth := by
  obtain ⟨front, hhistory⟩ := List.getLast?_eq_some_iff.mp hlast
  have hbefore := befores_history fresh qs front [] w hhistory
  have hdepth := depth_afterAll fresh qs
  have hw : w.Standard := standard_history hstd w (List.mem_of_getLast? hlast)
  have hchange : w.change = 0 := by
    rw [Entry.change, hw.pops_eq, hw.pushes_eq (by simp [hret]), hret]
    rfl
  rw [hhistory, Entry.net_append, Entry.net_cons, hchange, Entry.net_nil] at hdepth
  omega

end Encoder

/-! ## Runs of a finished body -/

/-- Every run of a finished body is safe, and what it returns stands alone
on a stack of the depth at which the writing stopped. -/
theorem safeRun_of_finalize {qs : List Request} {code : Code} {m : Machine}
    (hstd : ∀ q ∈ qs, q.Standard) (hcode : (Encoder.fresh.afterAll qs).finalize = .ok code)
    (hagree : ∀ w ∈ Encoder.fresh.history qs, w.AgreesWith m.hosts) (arguments : List Value) :
    code.instructions = (Encoder.fresh.history qs).map (·.instruction) ∧
      (m.start code arguments).SafeRun m.hosts (Encoder.fresh.history qs)
        (Encoder.fresh.afterAll qs).depth := by
  obtain ⟨hended, rfl⟩ := Encoder.finalize_eq_ok_iff.mp hcode
  constructor
  · simpa using Encoder.toList_instructions_afterAll Encoder.fresh qs
  · exact Frame.run_follows qs hstd hagree (by simp [Machine.start]) (by simp [Machine.start]) rfl
      hended

namespace Method

variable {m : Method} {body : Body}

/-- **A body returns what its method declares.** A body is any script that
writes plain instructions and late calls and declares locals, and goes on or
fails as it likes where it is refused. It can be built exactly when it ends
well, its last accepted instruction is a return, and the depth there is one
for a method that returns a value and zero for a void one. On every machine
whose hosts leave a value exactly where the accepted calls were written so,
each run of the code that returns gives a value exactly when the method is
not void, and leaves nothing else on the stack. -/
theorem buildBody_returns (hbody : m.body = some body)
    (hstd : ∀ q ∈ (body m.parameterTypes).requests .fresh, q.Standard) :
    let script := body m.parameterTypes
    let accepted := Encoder.fresh.history (script.requests .fresh)
    ((∃ code, m.buildBody.result = .ok code) ↔
      (script.run .fresh).result = .ok () ∧
        ∃ w, accepted.getLast? = some w ∧ w.instruction.opcode = .ret ∧
          w.before = if m.returns.isVoid then 0 else 1) ∧
    ∀ code, m.buildBody.result = .ok code →
      ∀ machine : Machine, (∀ w ∈ accepted, w.AgreesWith machine.hosts) →
        ∀ arguments r, (machine.execute code arguments).1 = .ok r →
          (r.isSome = true ↔ m.returns.isVoid = false) ∧
            ((machine.start code arguments).run machine.hosts code.instructions).2.stack = [] := by
  intro script accepted
  have hemit : m.emitBody .fresh = script.run .fresh := by rw [emitBody, hbody]
  have hleft := script.state_run .fresh
  constructor
  · simp only [buildBody_eq_ok_iff, hemit, hleft, Encoder.finalize_eq_ok_iff]
    constructor
    · rintro ⟨code, hok, hdepth, hended, -⟩
      obtain ⟨w, hlast, hret⟩ := (Encoder.ended_afterAll_iff _).mp hended
      exact ⟨hok, w, hlast, hret, (Encoder.before_eq_of_ret hstd hlast hret).trans hdepth⟩
    · rintro ⟨hok, w, hlast, hret, hbefore⟩
      exact ⟨_, hok, (Encoder.before_eq_of_ret hstd hlast hret).symm.trans hbefore,
        (Encoder.ended_afterAll_iff _).mpr ⟨w, hlast, hret⟩, rfl⟩
  · intro code hcode machine hagree arguments r hr
    simp only [buildBody_eq_ok_iff, hemit, hleft] at hcode
    obtain ⟨-, hdepth, hfinal⟩ := hcode
    obtain ⟨hinstructions, hsafe⟩ := safeRun_of_finalize hstd hfinal hagree arguments
    obtain ⟨stack, hlength, rfl, hrest⟩ := hsafe.returns r (hinstructions ▸ hr)
    rw [hinstructions, hrest]
    rw [hdepth, ReturnKind.count] at hlength
    -- The stack holds one value or none, and the run takes the top one away.
    cases hvoid : m.returns.isVoid with
    | true =>
      obtain rfl : stack = [] := List.eq_nil_of_length_eq_zero (by simpa [hvoid] using hlength)
      simp
    | false =>
      obtain ⟨v, rfl⟩ : ∃ v, stack = [v] :=
        List.length_eq_one_iff.mp (by simpa [hvoid] using hlength)
      simp

/-- A body that lets a refused instruction be, calls and returns the result. -/
def callingBody : Body := fun _ =>
  .emit .stelemRef fun _ => do
    Script.write .ldnull
    Script.write (.ldcI4 0)
    Script.write (.newarr Primitive.object.typeName)
    Script.write (.invokeLate ⟨"f"⟩ true)
    Script.write .ret

/-- A method that returns a number, with this body. -/
def callingMethod : Method :=
  ⟨0, some "Call", .value Primitive.i4.typeName, [], .ownType, some callingBody⟩

/-- The machine's only host leaves a number. -/
theorem agreesWith_callingMachine {w : Entry}
    (h : w.instruction.opcode = .invokeLate → w.pushes = 1) :
    w.AgreesWith callingMachine.hosts := by
  intro c hc host hhost heap arguments
  have hconst : host = .constant (.int32 7) := by
    simp only [callingMachine, Machine.setHost, Table.find?_put] at hhost
    split at hhost
    · exact (Option.some.inj hhost).symm
    · cases hhost
  rw [hconst, h (by rw [hc])]
  simp [Host.constant]

theorem buildBody_returns_calling :
    ∃ code, callingMethod.buildBody.result = .ok code ∧
      (callingMachine.execute code []).1 = .ok (some (.int32 7)) ∧
      ((callingMachine.start code []).run callingMachine.hosts code.instructions).2.stack = [] := by
  have hrequests : (callingBody []).requests .fresh =
      [.write .stelemRef, .write .ldnull, .write (.ldcI4 0),
        .write (.newarr Primitive.object.typeName), .write (.invokeLate ⟨"f"⟩ true),
        .write .ret] := by
    rfl
  have hstd : ∀ q ∈ (callingBody []).requests .fresh, q.Standard := by
    simp [hrequests, Request.Standard, Emission.Standard, Emission.stelemRef, Emission.ldnull,
      Emission.ldcI4, Emission.newarr, Emission.invokeLate, Emission.ret]
  have hpushes : ∀ w ∈ Encoder.fresh.history ((callingBody []).requests .fresh),
      w.instruction.opcode = .invokeLate → w.pushes = 1 := by
    rw [hrequests]
    decide +kernel
  have hbody : callingMethod.body = some callingBody := rfl
  obtain ⟨hbuilds, hreturns⟩ := buildBody_returns hbody hstd
  obtain ⟨code, hcode⟩ := hbuilds.mpr ⟨rfl, _, rfl, rfl, rfl⟩
  have hrun : (callingMachine.execute code []).1 = .ok (some (.int32 7)) := by
    have hbuilt : callingMethod.buildBody.result = .ok _ := rfl
    obtain rfl := Except.ok.inj (hbuilt.symm.trans hcode)
    rfl
  have hagree := fun w hw => agreesWith_callingMachine (hpushes w hw)
  obtain ⟨-, hempty⟩ := hreturns code hcode callingMachine hagree [] _ hrun
  exact ⟨code, hcode, hrun, hempty⟩

end Method

end TypeSynthesis
