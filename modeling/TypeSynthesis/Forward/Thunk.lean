/-
TypeSynthesis.Forward.Thunk — the body that forwards.

The body pushes the receiver, packs the arguments into an array of objects, calls late and returns:

    receiver   ldnull                                    no receiver
               ldftn f; newobj A; stloc a; ldloc a       a fresh adapter of shape A
    packing    ldc.i4 n; newarr object; stloc p
               ldloc p; ldc.i4 i; ldarg i+1; [box T]; stelem.ref      for each i below n
    dispatch   ldloc p; invoke.late f
    return     ret

Argument 0 is the object itself, so the parameters start at argument 1.

Models `ForwardingThunk`.

* `Plan.thunk` — the body of a plan. It fails when it is run for another number of parameters than was
  planned, or when a parameter lies beyond the last argument that an instruction can name.
-/
import TypeSynthesis.Forward.Plan

namespace TypeSynthesis

namespace Plan

/-- The type of everything that is packed. -/
def packedType : TypeName := Primitive.object.typeName

/-- The greatest length that a constant can hold. -/
def greatestLength : Nat := 0x7fffffff

/-- Push the receiver. -/
def pushReceiver (plan : Plan) : Script Unit :=
  match plan.receiver with
  | .adapter shape => do
    let slot ← Script.declareLocal .adapter (.adapter shape)
    Script.write (.ldftn plan.callable)
    Script.write (.newobj shape)
    Script.write (.stloc slot)
    Script.write (.ldloc slot)
  | .static | .unbound .. => Script.write .ldnull

/-- Store one argument in the array: argument `index + 1` at `index`, boxed when its type is. -/
def packOne (boxed : TypeName → Bool) (array : Slot) (index : Nat) (type : TypeName) : Script Unit :=
  if index + 1 < UInt16.size then do
    Script.write (.ldloc array)
    Script.write (.ldcI4 (.ofNat index))
    Script.write (.ldarg (.ofNat (index + 1)))
    if boxed type then
      Script.write (.box type)
    Script.write .stelemRef
  else .fail (.argumentOutOfRange (index + 1))

/-- Store the arguments from an index on. -/
def packFrom (boxed : TypeName → Bool) (array : Slot) : Nat → List TypeName → Script Unit
  | _, [] => .done ()
  | index, type :: rest => do
    packOne boxed array index type
    packFrom boxed array (index + 1) rest

/-- Pack all arguments into a fresh array and give its slot. -/
def pack (boxed : TypeName → Bool) (types : List TypeName) : Script Slot :=
  if types.length ≤ greatestLength then do
    let array ← Script.declareLocal .arguments (.array packedType)
    Script.write (.ldcI4 (.ofNat types.length))
    Script.write (.newarr packedType)
    Script.write (.stloc array)
    packFrom boxed array 0 types
    return array
  else .fail (.tooManyToPack types.length)

/-- The body of a plan, in which the values of some types are boxed. -/
def thunk (plan : Plan) (boxed : TypeName → Bool) : Body := fun types =>
  if types.length = plan.parameters.length then do
    plan.pushReceiver
    let array ← pack boxed types
    Script.write (.ldloc array)
    Script.write (.invokeLate plan.callable plan.returnsValue)
    Script.write .ret
  else .fail (.plannedCount plan.callable plan.parameters.length types.length)

end Plan

end TypeSynthesis
