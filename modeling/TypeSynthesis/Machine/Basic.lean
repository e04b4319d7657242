/-
TypeSynthesis.Machine.Basic — running finished bodies.

The machine runs a body's instructions in order on an evaluation stack. Argument 0 is null and the given
arguments follow; locals start as null. Every late call is recorded with its receiver and the arguments
as they are at that moment. A run ends at the first return or the first instruction that traps.

Models `StackMachine` and its `Invocation` records.

* `Trap` — why a run stopped; `Trap.message` — the same in words.
* `Frame.step`, `Frame.run` — one instruction, and a body.
* `Machine.execute` — run a body against the hosts of a machine, which keeps the records of all its runs.
-/
import TypeSynthesis.Machine.Host
import TypeSynthesis.Code.Listing
import TypeSynthesis.Fault
import TypeSynthesis.Table

namespace TypeSynthesis

/-! ## Traps -/

/-- Why a run stopped without a return. -/
inductive Trap where
  | argumentOutOfRange (index : UInt16)
  | localOutOfRange (slot : Slot)
  | underflow
  | notAPointer (value : Value)
  | notALength (value : Value)
  | negativeLength
  | notAnElement (array index : Value)
  | negativeIndex (index : Int32)
  | indexOutOfRange (index : Int32)
  | notPacked (value : Value)
  | noHost (callable : CallableName)
  | unexpected (instruction : Instruction)
  | fellOff
  deriving DecidableEq, Repr

/-- The value as it is inspected. -/
def Heap.inspected (h : Heap) (v : Value) : String := (h.shown v).outline.inline

/-- The reason in words; values are shown as they stand in the heap. -/
def Trap.reason (h : Heap) : Trap → String
  | argumentOutOfRange i => "argument " ++ toString i.toNat ++ " out of range"
  | localOutOfRange slot => "local slot " ++ slot.text ++ " out of range"
  | underflow => "evaluation stack underflow"
  | notAPointer v => "newobj expects a fn ptr, got " ++ h.inspected v
  | notALength v => "newarr expects a length, got " ++ h.inspected v
  | negativeLength => "negative array length"
  | notAnElement array index => "stelem.ref on " ++ h.inspected array ++ "[" ++ h.inspected index ++ "]"
  | negativeIndex i => "negative index " ++ toString i.toInt
  | indexOutOfRange i => "index " ++ toString i.toInt ++ " out of range"
  | notPacked v => "invoke.late expects an array, got " ++ h.inspected v
  | noHost c => "no host for " ++ c.text
  | unexpected i => "unexpected " ++ i.opcode.inspected ++ " " ++ i.operand.inspected
  | fellOff => "fell off the end of the body"

/-- The message; every trap is a malformed body. -/
def Trap.message (h : Heap) (t : Trap) : String := FaultKind.malformed.lead ++ t.reason h

/-! ## Machines -/

/-- The record of one late call. -/
structure Dispatch where
  callable : CallableName
  receiver : Value
  arguments : List Value
  deriving DecidableEq, Repr

/-- What runs bodies: the hosts by callable, the heap, and the record of all late calls. -/
structure Machine where
  hosts : Table CallableName Host
  heap : Heap
  dispatches : List Dispatch

/-- The state of a run between two instructions. -/
structure Frame where
  /-- Argument 0 is null. -/
  arguments : Array Value
  locals : Array Value
  /-- The top of the stack comes first. -/
  stack : List Value
  heap : Heap
  dispatches : List Dispatch
  deriving DecidableEq, Repr

/-- How a run goes on after an instruction: in another state, or not at all, with what the body returned
or why it stopped. -/
inductive Progress where
  | going (frame : Frame)
  | ended (result : Except Trap (Option Value)) (frame : Frame)

namespace Frame

/-! ## One instruction -/

/-- The run goes on with a value on top of the rest of the stack. -/
def push (f : Frame) (v : Value) (rest : List Value) : Progress := .going { f with stack := v :: rest }

/-- The run stops. -/
def trap (f : Frame) (t : Trap) : Progress := .ended (.error t) f

/-- Make an array of null of the length on the stack. -/
def makeArray (f : Frame) : Progress :=
  match f.stack with
  | [] => f.trap .underflow
  | .int32 n :: rest =>
    if n < 0 then f.trap .negativeLength
    else
      let (v, heap) := f.heap.make (.replicate n.toInt.toNat .null)
      .going { f with stack := v :: rest, heap := heap }
  | v :: _ => f.trap (.notALength v)

/-- Store the value on the stack at the index below it of the array below that. -/
def storeElement (f : Frame) : Progress :=
  match f.stack with
  | v :: .int32 i :: .array position :: rest =>
    if i < 0 then f.trap (.negativeIndex i)
    else if i.toInt.toNat < ((f.heap.items? position).map (·.size)).getD 0 then
      .going { f with stack := rest, heap := f.heap.write position i.toInt.toNat v }
    else f.trap (.indexOutOfRange i)
  | _ :: index :: array :: _ => f.trap (.notAnElement array index)
  | _ => f.trap .underflow

/-- Call late: the packed arguments are on the stack and the receiver below them. -/
def callLate (hosts : Table CallableName Host) (f : Frame) (c : CallableName) : Progress :=
  match f.stack with
  | .array position :: receiver :: rest =>
    match hosts.find? c with
    | none => f.trap (.noHost c)
    | some host =>
      let arguments := ((f.heap.items? position).getD #[]).toList
      let answer := host f.heap arguments
      .going { f with
        stack := answer.value.toList ++ rest
        heap := f.heap.extend answer
        dispatches := f.dispatches ++ [⟨c, receiver, arguments⟩] }
  | v :: _ :: _ => f.trap (.notPacked v)
  | _ => f.trap .underflow

/-- Run one instruction. -/
def step (hosts : Table CallableName Host) (f : Frame) (i : Instruction) : Progress :=
  match i.opcode, i.operand with
  | .nop, _ => .going f
  | .ldnull, _ => f.push .null f.stack
  | .ldcI4, .int32 v => f.push (.int32 v) f.stack
  | .ldarg, .argument index =>
    match f.arguments[index.toNat]? with
    | none => f.trap (.argumentOutOfRange index)
    | some v => f.push v f.stack
  | .ldloc, .slot slot =>
    match f.locals[slot.index.toNat]? with
    | none => f.trap (.localOutOfRange slot)
    | some v => f.push v f.stack
  | .stloc, .slot slot =>
    match f.stack with
    | [] => f.trap .underflow
    | v :: rest =>
      if slot.index.toNat < f.locals.size then
        .going { f with stack := rest, locals := f.locals.setIfInBounds slot.index.toNat v }
      else f.trap (.localOutOfRange slot)
  | .ldftn, .callable c => f.push (.pointer c) f.stack
  | .newobj, .adapter _ =>
    match f.stack with
    | [] => f.trap .underflow
    | .pointer c :: rest => f.push (.adapter c) rest
    | v :: _ => f.trap (.notAPointer v)
  | .newarr, .type _ => f.makeArray
  | .box, .type _ =>
    match f.stack with
    | [] => f.trap .underflow
    | v :: rest => f.push (.boxed v) rest
  | .stelemRef, _ => f.storeElement
  | .invokeLate, .callable c => f.callLate hosts c
  | .ret, _ => .ended (.ok f.stack.head?) { f with stack := f.stack.tail }
  | _, _ => f.trap (.unexpected i)

/-! ## Whole bodies -/

/-- Run instructions in order until the run ends; a body that does not return falls off its end. -/
def run (hosts : Table CallableName Host) : Frame → List Instruction → Except Trap (Option Value) × Frame
  | f, [] => (.error .fellOff, f)
  | f, i :: rest =>
    match f.step hosts i with
    | .going g => g.run hosts rest
    | .ended result g => (result, g)

end Frame

namespace Machine

/-- A machine without hosts that has run nothing. -/
def new : Machine := ⟨.empty, .empty, []⟩

/-- Set the host of a callable. -/
def setHost (m : Machine) (c : CallableName) (host : Host) : Machine :=
  { m with hosts := m.hosts.put c host }

/-- The first state of a run. -/
def start (m : Machine) (code : Code) (arguments : List Value) : Frame :=
  ⟨(.null :: arguments).toArray, .replicate code.locals.length .null, [], m.heap, m.dispatches⟩

/-- Run a body. -/
def execute (m : Machine) (code : Code) (arguments : List Value) :
    Except Trap (Option Value) × Machine :=
  let (result, frame) := (m.start code arguments).run m.hosts code.instructions
  (result, { m with heap := frame.heap, dispatches := frame.dispatches })

end Machine

end TypeSynthesis
