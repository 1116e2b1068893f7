import Crosscheck.Catalog.Semantics
import Crosscheck.Device.Addressing
import Crosscheck.Device.Wire

/-!
# Crosscheck.Device.Emulator

**A device without hardware.** The emulator runs kernels that compute with one instruction, the one
that writes `%d`; the operands of a bit-field instruction end with position and length as numbers.
Addresses are checked, and values are computed with the reference semantics of a registry. That
exercises everything but the reference semantics itself.
-/

namespace Crosscheck

/-- The computing instruction of a kernel. -/
structure Computation where
  /-- The operation. -/
  operation : Operation
  /-- The type. -/
  type : ElementType
  /-- The bit field, for operations on fields. -/
  bitField : Option BitField
  deriving DecidableEq, Repr

namespace Emulator

/-- A 32-bit number among the operands. -/
def immediate (operand : String) : Except ExecutionFailure UInt32 :=
  match Text.unsigned? 32 operand.toList with
  | some n => .ok (UInt32.ofNat n)
  | none => .error (.driver ("expected an immediate, found `" ++ operand ++ "`"))

/-- The bit field at the end of the operands. -/
def trailingField (i : Instruction) : Except ExecutionFailure BitField :=
  match i.operands.reverse with
  | length :: position :: _ => do
    let position ← immediate position
    let length ← immediate length
    .ok ⟨position, length⟩
  | _ => .error (.driver (i.opcode ++ ": missing bit-field operands"))

/-- What an instruction computes. -/
def interpret (r : Registry) (i : Instruction) : Except ExecutionFailure Computation :=
  match r.decodeOpcode? i.opcode with
  | none => .error (.driver ("unsupported instruction " ++ i.opcode))
  | some (op, t) =>
    if op.shape.hasBitField then do
      let field ← trailingField i
      .ok ⟨op, t, some field⟩
    else .ok ⟨op, t, none⟩

/-- The register that holds the result. -/
def resultRegister : String := "%d"

/-- What a kernel computes: the first instruction that writes the result decides. -/
def decode (r : Registry) (source : String) : Except ExecutionFailure Computation :=
  match (Instruction.ofSource source).find? (·.operands.head? == some resultRegister) with
  | some i => interpret r i
  | none => .error (.driver "no instruction writes %d")

/-- A failure to evaluate, as the device reports it. -/
def reported : Except CheckError α → Except ExecutionFailure α
  | .ok a => .ok a
  | .error e => .error (.driver e.message)

/-- Runs a kernel. The number of elements is that of the first input, and inputs that are shorter go
on with zeros. Only the first output is computed. -/
def emulate (r : Registry) (source : String) (inputs : List Buffer)
    (outputs : List BufferSpec) : Except ExecutionFailure (List Buffer) :=
  match outputs with
  | [] => .error (.driver "kernel has no output buffer")
  | output :: _ => do
    Addressing.check source inputs outputs
    let c ← decode r source
    let semantics ← reported (r.semanticsOf c.operation c.type)
    let count := (inputs.head?.map Buffer.length).getD 0
    let data ← (Buffer.rows count (inputs.map (·.data))).mapM fun operands =>
      reported (semantics.apply operands c.bitField)
    .ok [Buffer.ofWords output.name output.type data]

/-- The type of a name. -/
def typeNamed (r : Registry) (name : String) : Except ExecutionFailure ElementType :=
  match r.typeNamed? name with
  | some t => .ok t
  | none => .error (.driver ("unknown element type " ++ name))

/-- Runs the kernel of a request. -/
def runRequest (r : Registry) (request : WireRequest) : Except ExecutionFailure (List Buffer) := do
  let inputs ← request.inputs.mapM fun b => do
    .ok (Buffer.ofWords b.name (← typeNamed r b.type) b.data)
  let outputs ← request.outputs.mapM fun s => do
    .ok (BufferSpec.mk s.name (← typeNamed r s.type) s.length)
  emulate r request.source inputs outputs

/-- Answers a request. -/
def serve (r : Registry) (request : WireRequest) : WireResponse :=
  match runRequest r request with
  | .ok buffers => .ofBuffers buffers
  | .error e => .ofError e.message

/-- The emulator as a device. -/
def device (r : Registry) (concurrency : Nat) : Device where
  concurrency := concurrency
  reply call := .ofResult (emulate r call.kernel.source call.inputs call.outputs)

end Emulator

end Crosscheck
