import Crosscheck.Buffer
import Crosscheck.Template.Basic

/-!
# Crosscheck.Device.Basic

**Devices: whatever runs a kernel.** A device is called with a kernel, its input buffers and the
shapes of its output buffers. It answers with buffers or a failure, or breaks down without an answer.
What it answers is put into the order of the requested shapes and checked against them before anybody
sees it.

Every call has a worker of its own, a thread that is named after the entry point of the kernel. Names of
threads cannot hold a NUL. Whoever makes a call for which no worker can be named breaks down with it.
-/

namespace Crosscheck

/-- A call of a device. -/
structure DeviceCall where
  /-- The kernel. -/
  kernel : Kernel
  /-- The input buffers, in parameter order. -/
  inputs : List Buffer
  /-- The shapes of the output buffers, in parameter order. -/
  outputs : List BufferSpec
  deriving DecidableEq, Repr

/-- Whether a worker can be named for a call. -/
def DeviceCall.isNameable (c : DeviceCall) : Bool := c.kernel.entry.toList.all (· != '\x00')

/-- What a call comes to. -/
inductive DeviceReply where
  /-- The device returned buffers. -/
  | buffers (returned : List Buffer)
  /-- The device reported a failure. -/
  | failure (cause : ExecutionFailure)
  /-- The device broke down during the call. -/
  | breakdown
  deriving DecidableEq

/-- A device. -/
structure Device where
  /-- How many calls it takes at once. -/
  concurrency : Nat
  /-- What a call comes to. -/
  reply : DeviceCall → DeviceReply

namespace DeviceReply

/-- The reply of a computation that returns buffers or fails. -/
def ofResult : Except ExecutionFailure (List Buffer) → DeviceReply
  | .ok returned => buffers returned
  | .error cause => failure cause

end DeviceReply

/-- Takes out the element at an index. The last element moves into the gap. -/
def takeOut (i : Nat) (as : List α) : List α :=
  match as.getLast? with
  | some last => (as.set i last).dropLast
  | none => []

/-- Finds a buffer for every shape, by name, and checks its length. Its elements are cut to the type
of the shape. A buffer is used once; buffers that no shape asks for are passed over. -/
def checkOutputs : List BufferSpec → List Buffer → Except ExecutionFailure (List Buffer)
  | [], _ => .ok []
  | spec :: specs, returned =>
    match returned.findIdx? (·.name == spec.name) with
    | none => .error (.missingOutput spec.name)
    | some i =>
      match returned[i]? with
      | none => .error (.missingOutput spec.name)
      | some found => do
        spec.check found
        let rest ← checkOutputs specs (takeOut i returned)
        .ok (Buffer.ofWords found.name spec.type found.data :: rest)

/-- Calls a device and checks what it returns, once there is a worker for the call. -/
def Device.submit (d : Device) (call : DeviceCall) : Except ExecutionFailure (List Buffer) :=
  match d.reply call with
  | .buffers returned => checkOutputs call.outputs returned
  | .failure cause => .error cause
  | .breakdown => .error .disconnected

end Crosscheck
