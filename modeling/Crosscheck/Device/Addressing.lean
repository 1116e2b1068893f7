import Crosscheck.Buffer
import Crosscheck.Device.Assembly
import Crosscheck.Text.Numeral

/-!
# Crosscheck.Device.Addressing

**Tracing the addresses of a kernel.** For every register that address arithmetic writes, the trace
keeps whether it points to a buffer, and how far apart elements are in the offset that was added. An
access to global memory has to go through a pointer with an offset whose stride is the element size
of its buffer, and its width has to be that of the element type. Every input buffer has to be loaded
and every output buffer stored.
-/

namespace Crosscheck

/-- What a register holds. -/
inductive Address where
  /-- The base of a buffer, plus the offset of an element if a stride is given. -/
  | pointer (param : String) (stride : Option Nat)
  /-- The index of an element times a stride. -/
  | offset (stride : Nat)
  deriving DecidableEq, Repr

/-- The registers whose contents are known. -/
abbrev Registers := String → Option Address

namespace Registers

/-- Nothing is known. -/
def empty : Registers := fun _ => none

/-- Says what a register holds, or that it is not known. -/
def set (regs : Registers) (name : String) (value : Option Address) : Registers :=
  fun other => if other == name then value else regs other

end Registers

namespace Addressing

/-- A failure found in a kernel. -/
def failure (message : String) : ExecutionFailure := .driver message

/-- The sum of a pointer and an offset. A pointer takes one offset. -/
def sum (a b : Option Address) : Except ExecutionFailure (Option Address) :=
  match a, b with
  | some (.pointer param none), some (.offset stride) => .ok (some (.pointer param (some stride)))
  | some (.offset stride), some (.pointer param none) => .ok (some (.pointer param (some stride)))
  | some (.pointer param (some _)), some (.offset _) =>
    .error (failure (param ++ " is offset twice"))
  | some (.offset _), some (.pointer param (some _)) =>
    .error (failure (param ++ " is offset twice"))
  | _, _ => .ok none

/-- What is known after an instruction. Only the four instructions of address arithmetic write
registers that the trace keeps. -/
def execute (regs : Registers) (i : Instruction) : Except ExecutionFailure Registers :=
  match i.opcode, i.addresses with
  | "ld.param.u64", [dst, param] => .ok (regs.set dst (some (.pointer param none)))
  | "cvta.to.global.u64", [dst, src] => .ok (regs.set dst (regs src))
  | "mul.wide.u32", [dst, _, stride] =>
    .ok (regs.set dst ((Text.unsigned? 32 stride.toList).map .offset))
  | "add.u64", [dst, a, b] => do .ok (regs.set dst (← sum (regs a) (regs b)))
  | _, _ => .ok regs

/-- The type of the buffer of a name; outputs come before inputs, and later ones before earlier. -/
def typeOf? (inputs : List Buffer) (outputs : List BufferSpec) (name : String) :
    Option ElementType :=
  let types := inputs.map (fun b => (b.name, b.type)) ++ outputs.map (fun s => (s.name, s.type))
  (types.reverse.find? (·.1 == name)).map (·.2)

/-- The bits that the end of an opcode names, after the letter of its kind. -/
def accessBits? (width : String) : Option Nat :=
  match width.toList with
  | letter :: digits => if letter.toNat < 128 then Text.unsigned? 32 digits else none
  | [] => none

/-- Checks an access to global memory through a register, and says which buffer it reaches. -/
def checkAccess (typeOf? : String → Option ElementType) (regs : Registers)
    (opcode width register : String) : Except ExecutionFailure String := do
  let bits ← match accessBits? width with
    | some bits => .ok bits
    | none => .error (failure (opcode ++ ": unknown access width"))
  let (param, stride) ← match regs register with
    | some (.pointer param (some stride)) => .ok (param, stride)
    | some (.pointer param none) =>
      .error (failure (opcode ++ " accesses " ++ param ++ " without an element offset"))
    | _ => .error (failure (opcode ++ ": " ++ register ++ " is not a buffer address"))
  let t ← match typeOf? param with
    | some t => .ok t
    | none => .error (failure (opcode ++ ": " ++ param ++ " is not a launch buffer"))
  if stride ≠ t.bytes.toNat then
    .error (failure (param ++ " is indexed with stride " ++ toString stride ++ " but holds "
      ++ t.name ++ " (" ++ toString t.bytes.toNat ++ " bytes)"))
  else if bits ≠ t.bits then
    .error (failure (opcode ++ " accesses " ++ param ++ " as " ++ toString bits
      ++ " bits but it holds " ++ t.name))
  else .ok param

/-- What the trace knows between two instructions. -/
structure Trace where
  /-- The registers. -/
  registers : Registers
  /-- The buffers that were loaded. -/
  loaded : List String
  /-- The buffers that were stored. -/
  stored : List String

/-- The trace after an instruction. -/
def step (typeOf? : String → Option ElementType) (t : Trace) (i : Instruction) :
    Except ExecutionFailure Trace := do
  let regs ← execute t.registers i
  let loaded ← match i.suffix? "ld.global.", i.addresses with
    | some width, _ :: register :: _ => do
      .ok ((← checkAccess typeOf? regs i.opcode width register) :: t.loaded)
    | _, _ => .ok t.loaded
  let stored ← match i.suffix? "st.global.", i.addresses with
    | some width, register :: _ => do
      .ok ((← checkAccess typeOf? regs i.opcode width register) :: t.stored)
    | _, _ => .ok t.stored
  .ok ⟨regs, loaded, stored⟩

/-- Checks all accesses of a kernel to the buffers of a launch. -/
def check (source : String) (inputs : List Buffer) (outputs : List BufferSpec) :
    Except ExecutionFailure Unit := do
  let t ← (Instruction.ofSource source).foldlM (step (typeOf? inputs outputs))
    ⟨.empty, [], []⟩
  match inputs.find? (fun b => !t.loaded.contains b.name) with
  | some unread => .error (failure (unread.name ++ " is never loaded"))
  | none =>
    match outputs.find? (fun s => !t.stored.contains s.name) with
    | some unwritten => .error (failure (unwritten.name ++ " is never stored"))
    | none => .ok ()

end Addressing

end Crosscheck
