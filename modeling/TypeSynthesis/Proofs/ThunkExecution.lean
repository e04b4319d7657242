/-
TypeSynthesis.Proofs.ThunkExecution — what the body that forwards does when
it runs.

The body is straight-line code over one array, which it reaches through a
local. Each part is followed from any frame, so that the parts compose.

* `Frame.holding` — a frame whose newest array has the given items; the
  packing loop changes nothing but these.
* `packCode_reaches` — after packing from an index on, the items are the
  arguments, boxed where the parameter's type is.
* `execute_built`, `execute_built_traps` — a run of the whole body.
* `forward_executes` — plan, attach, build and run together.
-/
import TypeSynthesis.Proofs.MachineRuns
import TypeSynthesis.Proofs.ThunkEmission

namespace TypeSynthesis

/-! ## The newest array -/

namespace Heap

/-- A store into the newest array. -/
theorem write_make (h : Heap) (items : List Value) (index : Nat) (v : Value) :
    (h.make items.toArray).2.write h.size index v = (h.make (items.set index v).toArray).2 := by
  simp only [make, write, size, Heap.mk.injEq]
  apply Array.ext_getElem?
  intro k
  rw [Array.getElem?_modify, Array.getElem?_push, Array.getElem?_push]
  rcases eq_or_ne k h.arrays.size with rfl | hk
  · simp
  · simp [hk, hk.symm]

end Heap

namespace Plan

/-- What is packed of an argument. -/
def packedValue (boxed : TypeName → Bool) (type : TypeName) (v : Value) : Value :=
  if boxed type then .boxed v else v

/-- What is packed of all arguments. -/
def packedValues (boxed : TypeName → Bool) (types : List TypeName) (vs : List Value) : List Value :=
  List.zipWith (packedValue boxed) types vs

/-- What the call is dispatched on. -/
def receiverValue (plan : Plan) : Value :=
  match plan.receiver with
  | .adapter _ => .adapter plan.callable
  | .static | .unbound .. => .null

end Plan

namespace Frame

variable {hosts : Table CallableName Host}

/-- The frame with one more array. -/
def holding (f : Frame) (items : List Value) : Frame :=
  { f with heap := (f.heap.make items.toArray).2 }

/-- The frame with more values on the stack, the top one first. -/
def stacked (f : Frame) (vs : List Value) : Frame := { f with stack := vs ++ f.stack }

variable {f : Frame} {array : Slot} {items : List Value} {b : TypeName → Bool}

/-! ## Parts of the body -/

theorem step_ldloc {v : Value} (hlocal : f.locals[array.index.toNat]? = some v) :
    f.step hosts ⟨.ldloc, .slot array⟩ = .going { f with stack := v :: f.stack } := by
  simp [step, hlocal, push]

theorem step_stloc {v : Value} {rest : List Value} (hstack : f.stack = v :: rest)
    (hslot : array.index.toNat < f.locals.size) :
    f.step hosts ⟨.stloc, .slot array⟩ =
      .going { f with stack := rest, locals := f.locals.setIfInBounds array.index.toNat v } := by
  simp [step, hstack, hslot]

theorem step_ldarg {index : Nat} (hroom : index < UInt16.size) {v : Value}
    (harg : f.arguments[index]? = some v) :
    f.step hosts ⟨.ldarg, .argument (.ofNat index)⟩ = .going { f with stack := v :: f.stack } := by
  simp [step, UInt16.toNat_ofNat_of_lt' hroom, harg, push]

theorem step_ldarg_none {index : Nat} (hroom : index < UInt16.size)
    (harg : f.arguments[index]? = none) :
    f.step hosts ⟨.ldarg, .argument (.ofNat index)⟩ =
      .ended (.error (.argumentOutOfRange (.ofNat index))) f := by
  simp [step, UInt16.toNat_ofNat_of_lt' hroom, harg, trap]

/-- A store at an index of the newest array. -/
theorem step_stelemRef {v : Value} {index : Nat} {rest : List Value} (hindex : index < items.length)
    (hroom : index < UInt16.size)
    (hstack : f.stack = v :: .int32 (.ofNat index) :: .array f.heap.size :: rest) :
    (f.holding items).step hosts ⟨.stelemRef, .none⟩ =
      .going ({ f with stack := rest }.holding (items.set index v)) := by
  have hint : (Int32.ofNat index).toInt = index :=
    Int32.toInt_ofNat_of_lt (Nat.lt_trans hroom (by decide))
  have hnonneg : ¬Int32.ofNat index < 0 := by
    rw [Int32.lt_iff_toInt_lt, hint, Int32.toInt_zero]
    omega
  simp only [step, storeElement, holding, hstack, hnonneg, if_false, hint, Int.toNat_natCast,
    Heap.items?_make, Heap.write_make]
  simp [hindex]

open Plan

/-- Before an argument is stored, the array and the index are pushed. -/
theorem element_reaches (hlocal : f.locals[array.index.toNat]? = some (.array f.heap.size))
    (index : Nat) :
    (f.holding items).reach? hosts [⟨.ldloc, .slot array⟩, ⟨.ldcI4, .int32 (.ofNat index)⟩] =
      some ((f.stacked [.int32 (.ofNat index), .array f.heap.size]).holding items) := by
  have hload : (f.holding items).step hosts ⟨.ldloc, .slot array⟩ =
      .going ((f.stacked [.array f.heap.size]).holding items) := step_ldloc hlocal
  rw [reach?_cons hload]
  rfl

/-- Storing one argument sets its item, and the rest of the frame is as
before. -/
theorem packOneCode_reaches {index : Nat} {type : TypeName} {v : Value}
    (hlocal : f.locals[array.index.toNat]? = some (.array f.heap.size))
    (hroom : index + 1 < UInt16.size) (hindex : index < items.length)
    (harg : f.arguments[index + 1]? = some v) :
    (f.holding items).reach? hosts (packOneCode b array index type) =
      some (f.holding (items.set index (packedValue b type v))) := by
  have hload : ((f.stacked [.int32 (.ofNat index), .array f.heap.size]).holding items).step hosts
      ⟨.ldarg, .argument (.ofNat (index + 1))⟩ =
      .going ((f.stacked [v, .int32 (.ofNat index), .array f.heap.size]).holding items) :=
    step_ldarg hroom harg
  have hstore (u : Value) :
      ((f.stacked [u, .int32 (.ofNat index), .array f.heap.size]).holding items).reach? hosts
        [⟨.stelemRef, .none⟩] = some (f.holding (items.set index u)) := by
    rw [reach?_cons (step_stelemRef hindex (by omega) rfl), reach?_nil]
    rfl
  have hcode : packOneCode b array index type =
      [⟨.ldloc, .slot array⟩, ⟨.ldcI4, .int32 (.ofNat index)⟩] ++
        ⟨.ldarg, .argument (.ofNat (index + 1))⟩ ::
          ((if b type then [⟨.box, .type type⟩] else []) ++ [⟨.stelemRef, .none⟩]) := rfl
  rw [hcode, reach?_append (element_reaches hlocal index), reach?_cons hload, packedValue]
  cases b type with
  | false => exact hstore v
  | true => exact hstore (.boxed v)

/-- Without an argument for the index the run stops before it stores. -/
theorem packOneCode_traps {index : Nat} (type : TypeName)
    (hlocal : f.locals[array.index.toNat]? = some (.array f.heap.size))
    (hroom : index + 1 < UInt16.size) (harg : f.arguments[index + 1]? = none)
    (rest : List Instruction) :
    (f.holding items).run hosts (packOneCode b array index type ++ rest) =
      (.error (.argumentOutOfRange (.ofNat (index + 1))),
        (f.stacked [.int32 (.ofNat index), .array f.heap.size]).holding items) := by
  have hcode : packOneCode b array index type ++ rest =
      [⟨.ldloc, .slot array⟩, ⟨.ldcI4, .int32 (.ofNat index)⟩] ++
        ⟨.ldarg, .argument (.ofNat (index + 1))⟩ ::
          ((if b type then [⟨.box, .type type⟩] else []) ++ [⟨.stelemRef, .none⟩] ++ rest) := rfl
  have htrap : ((f.stacked [.int32 (.ofNat index), .array f.heap.size]).holding items).step hosts
      ⟨.ldarg, .argument (.ofNat (index + 1))⟩ =
      .ended (.error (.argumentOutOfRange (.ofNat (index + 1))))
        ((f.stacked [.int32 (.ofNat index), .array f.heap.size]).holding items) :=
    step_ldarg_none hroom harg
  rw [hcode, run_append (element_reaches hlocal index), run_of_ended htrap]

/-! ## The packing loop -/

section Packing

variable {arguments : List Value}

/-- One round of the packing loop: the items before the index are done,
those from it on are null. -/
theorem packOneCode_round (hlocal : f.locals[array.index.toNat]? = some (.array f.heap.size))
    (hgiven : f.arguments = (.null :: arguments).toArray) (type : TypeName) {stored : List Value}
    (n : Nat) (hroom : stored.length + 1 < UInt16.size) (hlt : stored.length < arguments.length) :
    (f.holding (stored ++ .replicate (n + 1) .null)).reach? hosts
        (packOneCode b array stored.length type) =
      some (f.holding (stored ++ [packedValue b type arguments[stored.length]] ++
        .replicate n .null)) := by
  have harg : f.arguments[stored.length + 1]? = some arguments[stored.length] := by
    simp [hgiven, hlt]
  have hset : (stored ++ .replicate (n + 1) .null).set stored.length
      (packedValue b type arguments[stored.length]) =
      stored ++ [packedValue b type arguments[stored.length]] ++ .replicate n .null := by
    simp [List.set_append_right, List.replicate_succ]
  rw [← hset]
  exact packOneCode_reaches hlocal hroom (by simp) harg

/-- **The packing loop** fills the array from left to right. -/
theorem packCode_reaches (hlocal : f.locals[array.index.toNat]? = some (.array f.heap.size))
    (hgiven : f.arguments = (.null :: arguments).toArray) (types : List TypeName)
    (stored : List Value) (hroom : stored.length + types.length < UInt16.size)
    (henough : stored.length + types.length ≤ arguments.length) :
    (f.holding (stored ++ .replicate types.length .null)).reach? hosts
        (packCode b array stored.length types) =
      some (f.holding (stored ++ packedValues b types (arguments.drop stored.length))) := by
  -- Each round moves one item from null to stored, so the induction is over what is left.
  induction types generalizing stored with
  | nil => simp [packCode, packedValues]
  | cons type rest ih =>
    rw [List.length_cons] at hroom henough
    have hlt : stored.length < arguments.length := by omega
    have hlength : (stored ++ [packedValue b type arguments[stored.length]]).length =
        stored.length + 1 := by
      rw [List.length_append, List.length_singleton]
    have hrest := ih (stored ++ [packedValue b type arguments[stored.length]])
      (by rw [hlength]; omega) (by rw [hlength]; omega)
    rw [hlength] at hrest
    rw [packCode, List.length_cons,
      reach?_append (packOneCode_round hlocal hgiven type rest.length (by omega) hlt), hrest,
      List.drop_eq_getElem_cons hlt, packedValues, packedValues, List.zipWith_cons_cons,
      List.append_assoc, List.singleton_append]

/-- With too few arguments the loop stops at the first one that is missing. -/
theorem packCode_traps (hlocal : f.locals[array.index.toNat]? = some (.array f.heap.size))
    (hgiven : f.arguments = (.null :: arguments).toArray) (types : List TypeName)
    (stored : List Value) (hroom : stored.length + types.length < UInt16.size)
    (hstored : stored.length ≤ arguments.length)
    (hfew : arguments.length < stored.length + types.length) (back : List Instruction) :
    ∃ g, (f.holding (stored ++ .replicate types.length .null)).run hosts
        (packCode b array stored.length types ++ back) =
          (.error (.argumentOutOfRange (.ofNat (arguments.length + 1))), g) ∧
      g.dispatches = f.dispatches := by
  induction types generalizing stored with
  | nil =>
    rw [List.length_nil] at hfew
    omega
  | cons type rest ih =>
    rw [List.length_cons] at hroom hfew
    rw [packCode, List.append_assoc, List.length_cons]
    rcases Nat.eq_or_lt_of_le hstored with heq | hlt
    · have hnone : f.arguments[stored.length + 1]? = none := by
        simp [hgiven, heq]
      rw [packOneCode_traps type hlocal (by omega) hnone, heq]
      exact ⟨_, rfl, rfl⟩
    · have hlength : (stored ++ [packedValue b type arguments[stored.length]]).length =
          stored.length + 1 := by
        rw [List.length_append, List.length_singleton]
      obtain ⟨g, hrun, hg⟩ := ih (stored ++ [packedValue b type arguments[stored.length]])
        (by rw [hlength]; omega) (by rw [hlength]; omega) (by rw [hlength]; omega)
      rw [hlength] at hrun
      rw [run_append (packOneCode_round hlocal hgiven type rest.length (by omega) hlt), hrun]
      exact ⟨g, rfl, hg⟩

end Packing

/-! ## Before and after the loop -/

variable {plan : Plan} {adapter : Slot}

theorem receiverCode_reaches (f : Frame)
    (hslot : ∀ shape, plan.receiver = .adapter shape → adapter.index.toNat < f.locals.size) :
    ∃ locals, locals.size = f.locals.size ∧
      f.reach? hosts (plan.receiverCode adapter) =
        some ({ f with locals := locals }.stacked [plan.receiverValue]) := by
  cases hrec : plan.receiver with
  | static => exact ⟨f.locals, rfl, by simp only [receiverCode, receiverValue, hrec]; rfl⟩
  | unbound required owner =>
    exact ⟨f.locals, rfl, by simp only [receiverCode, receiverValue, hrec]; rfl⟩
  | adapter shape =>
    have hlt : adapter.index.toNat < f.locals.size := hslot shape hrec
    refine ⟨f.locals.setIfInBounds adapter.index.toNat (.adapter plan.callable), by simp, ?_⟩
    simp only [receiverCode, receiverValue, hrec]
    have hpointer : f.step hosts ⟨.ldftn, .callable plan.callable⟩ =
        .going (f.stacked [.pointer plan.callable]) := rfl
    have hmake : (f.stacked [.pointer plan.callable]).step hosts ⟨.newobj, .adapter shape⟩ =
        .going (f.stacked [.adapter plan.callable]) := rfl
    have hstore : (f.stacked [.adapter plan.callable]).step hosts ⟨.stloc, .slot adapter⟩ =
        .going { f with
          locals := f.locals.setIfInBounds adapter.index.toNat (.adapter plan.callable) } :=
      step_stloc rfl hlt
    have hstored : (f.locals.setIfInBounds adapter.index.toNat
        (.adapter plan.callable))[adapter.index.toNat]? = some (.adapter plan.callable) := by
      simp [hlt]
    rw [reach?_cons hpointer, reach?_cons hmake, reach?_cons hstore,
      reach?_cons (step_ldloc hstored), reach?_nil]
    rfl

theorem arrayCode_reaches (f : Frame) (hslot : array.index.toNat < f.locals.size) {n : Nat}
    (hroom : n < UInt16.size) :
    f.reach? hosts (arrayCode array n) =
      some ({ f with
        locals := f.locals.setIfInBounds array.index.toNat (.array f.heap.size) }.holding
          (.replicate n .null)) := by
  have hint : (Int32.ofNat n).toInt = n := Int32.toInt_ofNat_of_lt (Nat.lt_trans hroom (by decide))
  have hnonneg : ¬Int32.ofNat n < 0 := by
    rw [Int32.lt_iff_toInt_lt, hint, Int32.toInt_zero]
    omega
  have hcount : f.step hosts ⟨.ldcI4, .int32 (.ofNat n)⟩ = .going (f.stacked [.int32 (.ofNat n)]) := rfl
  have hmake : (f.stacked [.int32 (.ofNat n)]).step hosts ⟨.newarr, .type packedType⟩ =
      .going ((f.stacked [.array f.heap.size]).holding (.replicate n .null)) := by
    simp [step, makeArray, stacked, holding, hnonneg, hint, Heap.make]
  have hstore : ((f.stacked [.array f.heap.size]).holding (.replicate n .null)).step hosts
      ⟨.stloc, .slot array⟩ = .going ({ f with
        locals := f.locals.setIfInBounds array.index.toNat (.array f.heap.size) }.holding
          (.replicate n .null)) := step_stloc rfl hslot
  rw [arrayCode, reach?_cons hcount, reach?_cons hmake, reach?_cons hstore, reach?_nil]

/-- The late call takes the items of the array, and its value is returned. -/
theorem dispatch_run {c : CallableName} {r : Value} {host : Host} (hhost : hosts.find? c = some host)
    (hlocal : f.locals[array.index.toNat]? = some (.array f.heap.size)) (hstack : f.stack = [r]) :
    ∃ g, (f.holding items).run hosts
        [⟨.ldloc, .slot array⟩, ⟨.invokeLate, .callable c⟩, ⟨.ret, .none⟩] =
          (.ok (host (f.holding items).heap items).value, g) ∧
      g.dispatches = f.dispatches ++ [⟨c, r, items⟩] := by
  have hload : (f.holding items).step hosts ⟨.ldloc, .slot array⟩ =
      .going ((f.stacked [.array f.heap.size]).holding items) := step_ldloc hlocal
  have hcall : ((f.stacked [.array f.heap.size]).holding items).step hosts
      ⟨.invokeLate, .callable c⟩ = .going { f with
        stack := (host (f.holding items).heap items).value.toList
        heap := (f.holding items).heap.extend (host (f.holding items).heap items)
        dispatches := f.dispatches ++ [⟨c, r, items⟩] } := by
    simp [step, callLate, stacked, holding, hstack, hhost, Heap.items?_make]
  rw [run_cons hload, run_cons hcall, run_of_ended rfl]
  exact ⟨_, by rw [Option.head?_toList], rfl⟩

/-- Without a host the run stops at the call. -/
theorem dispatch_traps {c : CallableName} {r : Value} (hhost : hosts.find? c = none)
    (hlocal : f.locals[array.index.toNat]? = some (.array f.heap.size)) (hstack : f.stack = [r])
    (back : List Instruction) :
    (f.holding items).run hosts (⟨.ldloc, .slot array⟩ :: ⟨.invokeLate, .callable c⟩ :: back) =
      (.error (.noHost c), (f.stacked [.array f.heap.size]).holding items) := by
  have hload : (f.holding items).step hosts ⟨.ldloc, .slot array⟩ =
      .going ((f.stacked [.array f.heap.size]).holding items) := step_ldloc hlocal
  have hcall : ((f.stacked [.array f.heap.size]).holding items).step hosts
      ⟨.invokeLate, .callable c⟩ =
      .ended (.error (.noHost c)) ((f.stacked [.array f.heap.size]).holding items) := by
    simp [step, callLate, stacked, holding, hstack, hhost, trap]
  rw [run_cons hload, run_of_ended hcall]

/-- The frame has the locals of the body and its arguments, and nothing on
the stack. -/
structure ReadyFor (f : Frame) (plan : Plan) (adapter array : Slot) (arguments : List Value) : Prop where
  adapter_lt : ∀ shape, plan.receiver = .adapter shape → adapter.index.toNat < f.locals.size
  array_lt : array.index.toNat < f.locals.size
  arguments_eq : f.arguments = (.null :: arguments).toArray
  stack_eq : f.stack = []

/-- The frame came from another by pushing the receiver and making room for
the array, which its local holds. -/
structure LoadedFrom (g f : Frame) (plan : Plan) (array : Slot) : Prop where
  arguments_eq : g.arguments = f.arguments
  stack_eq : g.stack = [plan.receiverValue]
  heap_eq : g.heap = f.heap
  dispatches_eq : g.dispatches = f.dispatches
  local_eq : g.locals[array.index.toNat]? = some (.array g.heap.size)

section Body

variable {arguments : List Value} {types : List TypeName}

/-- Receiver and array are there when the loop begins. -/
theorem prologue_reaches (h : f.ReadyFor plan adapter array arguments) {n : Nat}
    (hroom : n < UInt16.size) :
    ∃ g : Frame, g.LoadedFrom f plan array ∧
      f.reach? hosts (plan.receiverCode adapter ++ arrayCode array n) =
        some (g.holding (.replicate n .null)) := by
  obtain ⟨locals, hsize, hreach⟩ := receiverCode_reaches f h.adapter_lt
  have hlt : array.index.toNat < locals.size := by rw [hsize]; exact h.array_lt
  rw [reach?_append hreach, arrayCode_reaches _ hlt hroom]
  refine ⟨_, ?_, rfl⟩
  constructor
  case arguments_eq => rfl
  case stack_eq => simp [stacked, h.stack_eq]
  case heap_eq => rfl
  case dispatches_eq => rfl
  case local_eq => simp [stacked, hlt]

/-- With enough arguments the loop ends, and all of them are packed. -/
theorem packed_reaches (h : f.ReadyFor plan adapter array arguments)
    (hroom : types.length < UInt16.size) (henough : types.length ≤ arguments.length) :
    ∃ g : Frame, g.LoadedFrom f plan array ∧
      f.reach? hosts (plan.receiverCode adapter ++ packingCode b array types) =
        some (g.holding (packedValues b types arguments)) := by
  obtain ⟨g, hg, hstart⟩ := prologue_reaches h hroom
  have hloop : (g.holding (.replicate types.length .null)).reach? hosts (packCode b array 0 types) =
      some (g.holding (packedValues b types arguments)) :=
    packCode_reaches hg.local_eq (hg.arguments_eq.trans h.arguments_eq) types []
      (by simpa using hroom) (by simpa using henough)
  refine ⟨g, hg, ?_⟩
  rw [packingCode, ← List.append_assoc, reach?_append hstart, hloop]

/-- **A run of the body** makes one call, on the packed arguments, and
returns its value. -/
theorem code_run {host : Host} (hhost : hosts.find? plan.callable = some host)
    (h : f.ReadyFor plan adapter array arguments) (hroom : types.length < UInt16.size)
    (henough : types.length ≤ arguments.length) :
    ∃ g : Frame, f.run hosts (plan.code b adapter array types) =
        (.ok (host (f.holding (packedValues b types arguments)).heap
          (packedValues b types arguments)).value, g) ∧
      g.dispatches = f.dispatches ++
        [⟨plan.callable, plan.receiverValue, packedValues b types arguments⟩] := by
  obtain ⟨g, hg, hreach⟩ := packed_reaches (b := b) h hroom henough
  obtain ⟨last, hrun, hlast⟩ := dispatch_run hhost hg.local_eq hg.stack_eq
  refine ⟨last, ?_, by rw [hlast, hg.dispatches_eq]⟩
  rw [code, ← List.append_assoc, run_append hreach, hrun, holding, holding, hg.heap_eq]

theorem code_traps_of_no_host (hhost : hosts.find? plan.callable = none)
    (h : f.ReadyFor plan adapter array arguments) (hroom : types.length < UInt16.size)
    (henough : types.length ≤ arguments.length) :
    ∃ g : Frame, f.run hosts (plan.code b adapter array types) = (.error (.noHost plan.callable), g) ∧
      g.dispatches = f.dispatches := by
  obtain ⟨g, hg, hreach⟩ := packed_reaches (b := b) h hroom henough
  rw [code, ← List.append_assoc, run_append hreach, dispatch_traps hhost hg.local_eq hg.stack_eq]
  exact ⟨_, rfl, hg.dispatches_eq⟩

/-- With too few arguments the run stops in the loop. -/
theorem code_traps_of_few (h : f.ReadyFor plan adapter array arguments)
    (hroom : types.length < UInt16.size) (hfew : arguments.length < types.length) :
    ∃ g : Frame, f.run hosts (plan.code b adapter array types) =
        (.error (.argumentOutOfRange (.ofNat (arguments.length + 1))), g) ∧
      g.dispatches = f.dispatches := by
  obtain ⟨g, hg, hstart⟩ := prologue_reaches h hroom
  have hcode : plan.code b adapter array types = (plan.receiverCode adapter ++
      arrayCode array types.length) ++ (packCode b array 0 types ++
        [⟨.ldloc, .slot array⟩, ⟨.invokeLate, .callable plan.callable⟩, ⟨.ret, .none⟩]) := by
    simp only [code, packingCode, List.append_assoc]
  rw [hcode, run_append hstart, ← hg.dispatches_eq]
  exact packCode_traps hg.local_eq (hg.arguments_eq.trans h.arguments_eq) types []
    (by simpa using hroom) (Nat.zero_le _) (by simpa using hfew) _

end Body

end Frame

/-! ## The machine -/

theorem Machine.execute_of_run {m : Machine} {code : Code} {arguments : List Value}
    {result : Except Trap (Option Value)} {g : Frame}
    (h : (m.start code arguments).run m.hosts code.instructions = (result, g)) :
    (m.execute code arguments).1 = result ∧ (m.execute code arguments).2.dispatches = g.dispatches := by
  simp [execute, h]

namespace Plan

open Encoder

variable {plan : Plan} {b : TypeName → Bool} {types : List TypeName} {m : Machine}
  {arguments : List Value}

/-- The built code declares the locals that it uses. -/
theorem readyFor_start (plan : Plan) (b : TypeName → Bool) (types : List TypeName) (m : Machine)
    (arguments : List Value) :
    (m.start (plan.built b types) arguments).ReadyFor plan ((plan.binding fresh).slotOf .adapter)
      ((plan.preparing fresh).slotOf .arguments) arguments := by
  have hsize : (m.start (plan.built b types) arguments).locals.size =
      (plan.preparing fresh).locals.length := by
    simp [Machine.start, built]
  have hkept := wellKept_binding wellKept_fresh plan
  constructor
  case adapter_lt =>
    intro shape hrec
    have hdeclared : (plan.binding fresh).declares ((plan.binding fresh).slotOf .adapter) = true := by
      rw [binding, hrec]
      exact wellKept_fresh.declares_slotOf ..
    have hstill := hkept.declares_declaring hdeclared .arguments (.array packedType)
    rw [hsize, preparing]
    simpa [declares] using hstill
  case array_lt =>
    have hdeclared := hkept.declares_slotOf .arguments (.array packedType)
    rw [hsize, preparing]
    simpa [declares] using hdeclared
  case arguments_eq => rfl
  case stack_eq => rfl

/-- **The built code runs**: it makes one call, on the packed arguments, and
returns its value. -/
theorem execute_built {host : Host} (hhost : m.hosts.find? plan.callable = some host)
    (hroom : types.length < UInt16.size) (henough : types.length ≤ arguments.length) :
    (m.execute (plan.built b types) arguments).1 =
        .ok (host (m.heap.make (packedValues b types arguments).toArray).2
          (packedValues b types arguments)).value ∧
      (m.execute (plan.built b types) arguments).2.dispatches =
        m.dispatches ++ [⟨plan.callable, plan.receiverValue, packedValues b types arguments⟩] := by
  have hready := readyFor_start plan b types m arguments
  obtain ⟨g, hrun, hg⟩ := Frame.code_run hhost hready hroom henough
  obtain ⟨hresult, hdispatches⟩ := Machine.execute_of_run hrun
  exact ⟨hresult, hdispatches.trans hg⟩

/-- The built code stops without a call where arguments or the host are
missing. -/
theorem execute_built_traps (plan : Plan) (b : TypeName → Bool) (m : Machine)
    (arguments : List Value) (hroom : types.length < UInt16.size) :
    (arguments.length < types.length →
      (m.execute (plan.built b types) arguments).1 =
        .error (.argumentOutOfRange (.ofNat (arguments.length + 1))) ∧
      (m.execute (plan.built b types) arguments).2.dispatches = m.dispatches) ∧
    (types.length ≤ arguments.length → m.hosts.find? plan.callable = none →
      (m.execute (plan.built b types) arguments).1 = .error (.noHost plan.callable) ∧
      (m.execute (plan.built b types) arguments).2.dispatches = m.dispatches) := by
  have hready := readyFor_start plan b types m arguments
  refine ⟨fun hfew => ?_, fun henough hhost => ?_⟩
  · obtain ⟨g, hrun, hg⟩ := Frame.code_traps_of_few hready hroom hfew
    obtain ⟨hresult, hdispatches⟩ := Machine.execute_of_run hrun
    exact ⟨hresult, hdispatches.trans hg⟩
  · obtain ⟨g, hrun, hg⟩ := Frame.code_traps_of_no_host hhost hready hroom henough
    obtain ⟨hresult, hdispatches⟩ := Machine.execute_of_run hrun
    exact ⟨hresult, hdispatches.trans hg⟩

end Plan

namespace Forwarder

/-! ## Forwarding -/

/-- **Forwarding forwards.** A method of at most 65535 parameters to which
`forward` attached a body is built. Run on a machine with a host for the
callable and with enough arguments, its code makes exactly one call: of the
callable, on the receiver that the plan reports, with the arguments in
order, those of a value type boxed if the forwarder boxes; and it returns
what the host leaves. Without enough arguments or without a host, the run
stops and no call is made. -/
theorem forward_executes (f : Forwarder) (m : Method) (c : CallableName)
    (hroom : m.parameters.length ≤ 65535) (h : (f.forward m c).result = .ok ()) :
    ∃ plan code, (f.plan m c).result = .ok plan ∧
      (f.forward m c).state.buildBody.result = .ok code ∧
      ∀ (machine : Machine) (arguments : List Value),
        (∀ host, machine.hosts.find? c = some host → m.parameters.length ≤ arguments.length →
          ∃ packed : List Value, packed.length = m.parameters.length ∧
            (∀ (i : Nat) (type : TypeName) (v : Value), m.parameterTypes[i]? = some type →
              arguments[i]? = some v →
              packed[i]? = some
                (if f.boxesValues = true ∧ f.registry.isValueType type = true then .boxed v else v)) ∧
            (machine.execute code arguments).1 =
              .ok (host (machine.heap.make packed.toArray).2 packed).value ∧
            (machine.execute code arguments).2.dispatches = machine.dispatches ++
              [⟨c, match plan.receiver with
                | .adapter _ => .adapter c
                | .static | .unbound .. => .null, packed⟩]) ∧
        (arguments.length < m.parameters.length →
          (machine.execute code arguments).1 =
            .error (.argumentOutOfRange (.ofNat (arguments.length + 1))) ∧
          (machine.execute code arguments).2.dispatches = machine.dispatches) ∧
        (m.parameters.length ≤ arguments.length → machine.hosts.find? c = none →
          (machine.execute code arguments).1 = .error (.noHost c) ∧
          (machine.execute code arguments).2.dispatches = machine.dispatches) := by
  obtain ⟨plan, hplan, hstate, rfl, hparameters, hreturns⟩ := forward_fits h
  have hlength : m.parameterTypes.length = m.parameters.length := List.length_map ..
  have htypes : m.parameterTypes.length < UInt16.size := by
    rw [hlength]
    exact Nat.lt_succ_of_le hroom
  have hbuilt : (f.forward m plan.callable).state.buildBody.result =
      .ok (plan.built f.boxes m.parameterTypes) := by
    rw [hstate]
    exact Plan.buildBody_thunk rfl (by rw [hparameters, hlength]) (Nat.lt_succ_of_le hroom) hreturns
  refine ⟨plan, _, hplan, hbuilt, fun machine arguments => ⟨fun host hhost henough => ?_, ?_⟩⟩
  · obtain ⟨hresult, hdispatches⟩ := Plan.execute_built (b := f.boxes) hhost htypes
      (hlength.le.trans henough)
    refine ⟨Plan.packedValues f.boxes m.parameterTypes arguments, ?_, ?_, hresult, hdispatches⟩
    · rw [Plan.packedValues, List.length_zipWith, hlength]
      exact Nat.min_eq_left henough
    · intro i type v htype hv
      rw [Plan.packedValues, List.getElem?_zipWith, htype, hv]
      simp [Plan.packedValue, boxes]
  · have htraps := Plan.execute_built_traps plan f.boxes machine arguments htypes
    rwa [hlength] at htraps

/-- The invoker of an adapter of a number and a text. -/
def invoker : Callable :=
  .ofAdapter ⟨"Invoke"⟩ [Primitive.i4.typeName, Primitive.string.typeName]
    (.value Primitive.string.typeName)

/-- A forwarder that knows the invoker. -/
def invoking : Forwarder := .standard (Registry.initial.putCallable invoker)

/-- A method that takes and leaves what the invoker does. -/
def invokingMethod : Method :=
  ⟨0, none, .value Primitive.string.typeName,
    [⟨"count", Primitive.i4.typeName, by decide⟩, ⟨"label", Primitive.string.typeName, by decide⟩],
    default, none⟩

/-- A machine on which the invoker leaves its last argument. -/
def invokingMachine : Machine := Machine.new.setHost ⟨"Invoke"⟩ .last

theorem forward_executes_invoking :
    ∃ code, (invoking.forward invokingMethod ⟨"Invoke"⟩).state.buildBody.result = .ok code ∧
      (invokingMachine.execute code [.int32 7, .text "x"]).1 = .ok (some (.text "x")) ∧
      (invokingMachine.execute code [.int32 7, .text "x"]).2.dispatches =
        [⟨⟨"Invoke"⟩, .adapter ⟨"Invoke"⟩, [.boxed (.int32 7), .text "x"]⟩] ∧
      (invokingMachine.execute code [.int32 7]).1 = .error (.argumentOutOfRange 2) := by
  have hforward : (invoking.forward invokingMethod ⟨"Invoke"⟩).result = .ok () := by rfl
  obtain ⟨plan, code, hplan, hcode, hrun⟩ :=
    forward_executes invoking invokingMethod ⟨"Invoke"⟩ (by decide) hforward
  have hmade : (invoking.plan invokingMethod ⟨"Invoke"⟩).result =
      .ok ⟨⟨"Invoke"⟩, .adapter (.ofSignature invoker.parameters invoker.returns),
        invokingMethod.parameterTypes, true⟩ := by rfl
  obtain rfl := Except.ok.inj (hmade.symm.trans hplan)
  obtain ⟨hcall, -, -⟩ := hrun invokingMachine [.int32 7, .text "x"]
  obtain ⟨-, hfew, -⟩ := hrun invokingMachine [.int32 7]
  have hhost : invokingMachine.hosts.find? ⟨"Invoke"⟩ = some Host.last := by
    simp [invokingMachine, Machine.setHost, Table.find?_put]
  obtain ⟨packed, hlength, hitems, hresult, hdispatches⟩ := hcall Host.last hhost (by decide)
  obtain ⟨x, y, rfl⟩ := List.length_eq_two.mp hlength
  have hx : x = .boxed (.int32 7) := by
    have hboxed : invoking.boxesValues = true ∧
        invoking.registry.isValueType Primitive.i4.typeName = true := by decide
    have hitem := hitems 0 Primitive.i4.typeName (.int32 7) rfl rfl
    rw [if_pos hboxed] at hitem
    exact Option.some.inj hitem
  have hy : y = .text "x" := by
    have hplain : ¬(invoking.boxesValues = true ∧
        invoking.registry.isValueType Primitive.string.typeName = true) := by decide
    have hitem := hitems 1 Primitive.string.typeName (.text "x") rfl rfl
    rw [if_neg hplain] at hitem
    exact Option.some.inj hitem
  subst hx hy
  exact ⟨code, hcode, hresult, hdispatches, (hfew (by decide)).1⟩

end Forwarder

end TypeSynthesis
