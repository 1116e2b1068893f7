import Crosscheck.Device.Basic
import Crosscheck.Text.Blank
import Crosscheck.Text.Lines

/-!
# Crosscheck.Device.Fault

**Devices that are faulty on purpose.** A fault concerns the kernels that compute with one opcode, or
all kernels. Some faults keep the device from answering; the others spoil the buffers it returns. With
them one checks that a fault is reported, and only where it is.
-/

namespace Crosscheck

/-- How an element is spoiled. -/
inductive Corruption where
  /-- Some of its bits are flipped. -/
  | flip
  /-- It is replaced. -/
  | replace
  deriving DecidableEq, Repr

/-- What a faulty device does. -/
inductive FaultMode where
  /-- It reports an error. -/
  | error (reason : String)
  /-- It breaks down. -/
  | breakdown
  /-- It returns no buffers. -/
  | nothing
  /-- It returns buffers under another name. -/
  | rename (name : String)
  /-- It returns buffers without their last element. -/
  | short
  /-- It returns buffers with one more element. -/
  | long (value : Word)
  /-- It returns buffers with a spoiled element, or with all elements spoiled. -/
  | corrupt (kind : Corruption) (index : Option Nat) (value : Word)
  deriving DecidableEq, Repr

/-- A fault. -/
structure Fault where
  /-- The opcode of the kernels it concerns; `none` for all kernels. -/
  opcode : Option String
  /-- What happens. -/
  mode : FaultMode
  deriving DecidableEq, Repr

/-- Whether a line computes the result with an opcode. -/
def lineComputes (opcode : String) (line : List Char) : Bool :=
  match Text.dropPrefix? opcode.toList (Text.trimStart line) with
  | some rest => "%d,".toList.isPrefixOf (Text.trimStart rest)
  | none => false

/-- Whether a kernel computes its result with an opcode. -/
def Kernel.computes (k : Kernel) (opcode : String) : Bool :=
  (Text.lines k.source).any (lineComputes opcode)

namespace Corruption

/-- A spoiled element. -/
def spoil (kind : Corruption) (value element : Word) : Word :=
  match kind with
  | .flip => element ^^^ value
  | .replace => value

end Corruption

namespace Fault

/-- Whether a kernel is concerned. -/
def concerns (f : Fault) (k : Kernel) : Bool := f.opcode.all k.computes

/-- What becomes of a returned buffer. -/
def spoil (mode : FaultMode) (b : Buffer) : Buffer :=
  match mode with
  | .rename name => { b with name := name }
  | .short => { b with data := b.data.dropLast }
  | .long value => { b with data := b.data ++ [value] }
  | .corrupt kind (some i) value => { b with data := b.data.modify i (kind.spoil value) }
  | .corrupt kind none value => { b with data := b.data.map (kind.spoil value) }
  | _ => b

/-- The reply of a device with a fault to a call it concerns. -/
def reply (mode : FaultMode) (honest : DeviceReply) : DeviceReply :=
  match mode with
  | .error reason => .failure (.driver reason)
  | .breakdown => .breakdown
  | .nothing => .buffers []
  | mode =>
    match honest with
    | .buffers returned => .buffers (returned.map (spoil mode))
    | other => other

end Fault

/-- A device with faults. The first fault that concerns a kernel counts. -/
def Device.withFaults (d : Device) (faults : List Fault) : Device where
  concurrency := d.concurrency
  reply call :=
    match faults.find? (·.concerns call.kernel) with
    | some f => Fault.reply f.mode (d.reply call)
    | none => d.reply call

end Crosscheck
