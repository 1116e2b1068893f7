import Crosscheck.Device.Wire
import Crosscheck.Shell.Command
import Crosscheck.Text.Blank

/-!
# Crosscheck.Device.Program

**Devices that are programs.** For every call the program is started once: it gets the request as its
input and has to write the answer as its output. A program that cannot be started or fails, or writes
anything else, is a failure of the device; one that takes too long is stopped. What programs there are
and what they do is given by `Shell.Programs`.
-/

namespace Crosscheck

/-- A device that is a program. -/
structure DeviceProgram where
  /-- The program. -/
  program : String
  /-- Its arguments. -/
  args : List String
  /-- How many calls it takes at once. -/
  concurrency : Nat
  deriving DecidableEq, Repr

namespace DeviceProgram

/-- How a process ended. -/
def endingOf (e : Shell.Effect) : Shell.Ending := e.ending.getD (.exited e.status)

/-- The answer of a process that ended in time. -/
def answer (d : DeviceProgram) (e : Shell.Effect) : Except ExecutionFailure WireResponse :=
  if (endingOf e).succeeded then
    match WireResponse.ofText? e.output with
    | some response => .ok response
    | none => .error (.driver "malformed driver response: not a response")
  else
    .error (.driver (d.program ++ " exited with " ++ (endingOf e).text ++ ": "
      ++ String.ofList (Text.trim e.errors.toList)))

/-- Starts the program for a request. -/
def invoke (programs : Shell.Programs) (d : DeviceProgram) (timeoutMillis : UInt64)
    (request : WireRequest) : Except ExecutionFailure WireResponse :=
  match programs (d.program :: d.args) request.text with
  | .error reason => .error (.driver ("cannot start " ++ d.program ++ ": " ++ reason))
  | .ok e =>
    if timeoutMillis.toNat ≤ e.millis then .error (.timeout (.ofMillis timeoutMillis))
    else d.answer e

/-- The buffers that the program returns for a call. -/
def call (programs : Shell.Programs) (d : DeviceProgram) (timeoutMillis : UInt64) (c : DeviceCall) :
    Except ExecutionFailure (List Buffer) := do
  let response ← d.invoke programs timeoutMillis (.ofCall c)
  response.toBuffers c.outputs

/-- The program as a device, which takes one call at least. -/
def device (programs : Shell.Programs) (d : DeviceProgram) (timeoutMillis : UInt64) : Device where
  concurrency := max 1 d.concurrency
  reply c := .ofResult (d.call programs timeoutMillis c)

end DeviceProgram

end Crosscheck
