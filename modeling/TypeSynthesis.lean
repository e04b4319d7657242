import TypeSynthesis.Blueprint.Basic
import TypeSynthesis.Blueprint.Operation
import TypeSynthesis.Callable
import TypeSynthesis.Code.Instruction
import TypeSynthesis.Code.Listing
import TypeSynthesis.Code.OpCode
import TypeSynthesis.Encoder
import TypeSynthesis.Event
import TypeSynthesis.Fault
import TypeSynthesis.Flags
import TypeSynthesis.Forward.Forwarder
import TypeSynthesis.Forward.Plan
import TypeSynthesis.Forward.Receiver
import TypeSynthesis.Forward.Thunk
import TypeSynthesis.Machine.Basic
import TypeSynthesis.Machine.Host
import TypeSynthesis.Machine.Value
import TypeSynthesis.Member.Constructor
import TypeSynthesis.Member.Method
import TypeSynthesis.Member.MethodStep
import TypeSynthesis.Member.Parameter
import TypeSynthesis.Member.Property
import TypeSynthesis.Name
import TypeSynthesis.Outcome
import TypeSynthesis.Registry
import TypeSynthesis.Scope
import TypeSynthesis.Script
import TypeSynthesis.Table
import TypeSynthesis.Text.Blank
import TypeSynthesis.Text.Extending
import TypeSynthesis.Text.Hex
import TypeSynthesis.Text.Line
import TypeSynthesis.Text.Outline
import TypeSynthesis.Text.Quoted
import TypeSynthesis.Text.Unprintable
import TypeSynthesis.TypeInfo
import TypeSynthesis.Proofs.EncoderHistory
import TypeSynthesis.Proofs.EncoderInvariant
import TypeSynthesis.Proofs.MachineRuns
import TypeSynthesis.Proofs.StackSafety
import TypeSynthesis.Proofs.ScriptRuns
import TypeSynthesis.Proofs.ThunkEmission
import TypeSynthesis.Proofs.ThunkShape
import TypeSynthesis.Proofs.ThunkExecution
import TypeSynthesis.Proofs.BlueprintEffects
import TypeSynthesis.Proofs.HeaderHistory
import TypeSynthesis.Proofs.BoundDispatch
import TypeSynthesis.Proofs.KnownMentions
import TypeSynthesis.Proofs.RefusalAtomicity
import TypeSynthesis.Proofs.ForwardAcceptance
import TypeSynthesis.Proofs.LastAttachment
import TypeSynthesis.Proofs.ShapedMethods
import TypeSynthesis.Proofs.ReturnKinds
import TypeSynthesis.Proofs.ListingFaithful
import TypeSynthesis.Proofs.MemberStability
import TypeSynthesis.Proofs.PartIndependence
import TypeSynthesis.Proofs.ConstructorParameters
import TypeSynthesis.Proofs.EmissionAcceptance
import TypeSynthesis.Proofs.ManualEmission
import TypeSynthesis.Proofs.HeapReach
import TypeSynthesis.Proofs.DispatchRecords
import TypeSynthesis.Proofs.NameParts
import TypeSynthesis.Proofs.RegistryHistory
import TypeSynthesis.Proofs.FaithfulJournal
