import Crosscheck.Device.Basic
import Crosscheck.Device.Slots

/-!
# Crosscheck.Proofs.Device.Pool

**Calls that share the slots of a device, one step at a time.** A call is made by a caller, who waits
for a slot and then for the answer, and served by a worker, who holds the slot while the device runs.
They synchronize on events: `Worker.step` and `Caller.step` say what an event is for each of them, and
an event takes place if it is possible for both. A `Pool` is the state of the slots, of all calls and
of the one that waits until the device is idle. The events of a run come in any order.

The free slots are the tokens in a channel: taking a slot needs a token in it, and giving one back
needs room in it.
-/

namespace Crosscheck

/-! ### Tokens -/

namespace Slots

/-- The tokens in the channel. -/
def free (s : Slots) : Nat := s.capacity - s.inUse

/-- Takes a token, if there is one. -/
def take? (s : Slots) : Option Slots := (s.acquire .longest).toOption

/-- Puts a token back, if there is room. -/
def give? (s : Slots) : Option Slots := if s.free < s.capacity then some s.release else none

end Slots

/-! ### One call -/

/-- What the device's answer to a call comes to, once the outputs have been checked. -/
abbrev Answer := Except ExecutionFailure (List Buffer)

/-- The answer of a device that has replied. A breakdown is none. -/
def DeviceReply.answer? (outputs : List BufferSpec) : DeviceReply → Option Answer
  | .buffers returned => some (checkOutputs outputs returned)
  | .failure cause => some (.error cause)
  | .breakdown => none

/-- A call to which nothing happens comes to the answer of the device, or to a lost connection. -/
theorem Device.submit_eq (d : Device) (call : DeviceCall) :
    d.submit call = ((d.reply call).answer? call.outputs).getD (.error .disconnected) := by
  rw [Device.submit]
  cases d.reply call <;> rfl

/-- What can happen to a call. -/
inductive CallEvent where
  /-- The caller takes a slot. -/
  | acquire
  /-- The caller's deadline passes before there is a slot. -/
  | refuse
  /-- The worker starts. -/
  | spawn
  /-- The worker cannot be started. There is a reason, unless the caller breaks down over it. -/
  | failSpawn (reason : Option String)
  /-- The device returns or breaks down. -/
  | reply (reply : DeviceReply)
  /-- The worker's slot is dropped. -/
  | drop
  /-- The worker sends the answer. -/
  | send
  /-- A worker that broke down lets go of the connection to the caller. -/
  | disconnect
  /-- The caller's deadline passes before there is an answer. -/
  | timeout
  /-- The caller does not want the answer any more. -/
  | leave
  /-- The caller receives the answer. -/
  | receive
  /-- The caller notices that there will be no answer. -/
  | notice
  deriving DecidableEq

/-- Where the worker of a call is. -/
inductive Worker where
  /-- There is no slot for it yet. -/
  | absent
  /-- There is a slot, and it is about to be started. -/
  | starting
  /-- It could not be started. -/
  | stillborn (reason : Option String)
  /-- The device runs. -/
  | running
  /-- The device has returned. -/
  | returned (answer : Answer)
  /-- The device broke down; the connection to the caller may be gone already. -/
  | unwinding (connected : Bool)
  /-- The slot is dropped, the answer is still to be sent. -/
  | answering (answer : Answer)
  /-- The slot is dropped after a breakdown, the connection is still there. -/
  | silent
  /-- It is gone. -/
  | ended

namespace Worker

/-- Whether the call holds a slot. -/
def holds : Worker → Bool
  | starting | stillborn _ | running | returned _ | unwinding _ => true
  | absent | answering _ | silent | ended => false

/-- Whether the slot is about to be dropped: the device has returned or broken down, or it was never
called. -/
def isLeaving : Worker → Bool
  | stillborn _ | returned _ | unwinding _ => true
  | _ => false

/-- Whether the device runs. -/
def isRunning : Worker → Bool
  | running => true
  | _ => false

/-- Whether the connection to the caller is gone. -/
def isGone : Worker → Bool
  | ended | unwinding false => true
  | _ => false

/-- What the worker does at an event. Of the caller's own events it knows nothing. -/
def step (outputs : List BufferSpec) : Worker → CallEvent → Option Worker
  | absent, .acquire => some starting
  | absent, .refuse => some absent
  | starting, .spawn => some running
  | starting, .failSpawn reason => some (stillborn reason)
  | running, .reply r =>
    match r.answer? outputs with
    | some a => some (returned a)
    | none => some (unwinding true)
  | stillborn _, .drop => some ended
  | returned a, .drop => some (answering a)
  | unwinding true, .drop => some silent
  | unwinding false, .drop => some ended
  | unwinding true, .disconnect => some (unwinding false)
  | silent, .disconnect => some ended
  | answering _, .send => some ended
  | w, .timeout => some w
  | w, .leave => some w
  | w, .receive => some w
  | w, .notice => if w.isGone then some w else none
  | _, _ => none

end Worker

/-- Where the caller is. -/
inductive Caller where
  /-- Waits for a slot and the start of the worker. -/
  | submitting
  /-- Waits for the answer, which may have been sent. -/
  | waiting (sent : Option Answer)
  /-- Went away, or broke down. -/
  | left
  /-- Has the answer of the device. -/
  | answered (answer : Answer)
  /-- Has a failure instead of an answer. -/
  | gaveUp (failure : ExecutionFailure)

namespace Caller

/-- What the caller does at an event, given where the worker was. What is sent to a caller who is gone
is lost. -/
def step (patience : Duration) (w : Worker) : Caller → CallEvent → Option Caller
  | submitting, .acquire => some submitting
  | submitting, .refuse => some (gaveUp (.timeout patience))
  | submitting, .spawn => some (waiting none)
  | submitting, .failSpawn (some _) => some submitting
  | submitting, .failSpawn none => some left
  | waiting _, .timeout => some (gaveUp (.timeout patience))
  | waiting _, .leave => some left
  | waiting (some a), .receive => some (answered a)
  | waiting none, .notice => some (gaveUp .disconnected)
  | c, .drop =>
    match w with
    | .stillborn (some reason) => some (gaveUp (.spawn reason))
    | _ => some c
  | c, .send =>
    match c, w with
    | waiting none, .answering a => some (waiting (some a))
    | _, _ => some c
  | c, .reply _ => some c
  | c, .disconnect => some c
  | _, _ => none

end Caller

/-- A call. -/
structure Call where
  /-- How long the caller waits. -/
  patience : Duration
  /-- The shapes of the outputs. -/
  outputs : List BufferSpec
  /-- The caller. -/
  caller : Caller
  /-- The worker. -/
  worker : Worker

namespace Call

/-- A call at its beginning. -/
def new (patience : Duration) (outputs : List BufferSpec) : Call :=
  ⟨patience, outputs, .submitting, .absent⟩

/-- The call after an event. -/
def step (c : Call) (e : CallEvent) : Option Call :=
  match c.worker.step c.outputs e, c.caller.step c.patience c.worker e with
  | some worker, some caller => some { c with caller := caller, worker := worker }
  | _, _ => none

end Call

/-- The tokens that an event of a call moves. -/
def CallEvent.transfer (s : Slots) : CallEvent → Option Slots
  | .acquire => s.take?
  | .drop => s.give?
  | _ => some s

/-! ### All calls -/

/-- How far one has got who waits until the device is idle. -/
inductive Drain where
  /-- Nobody waits. -/
  | absent
  /-- Some tokens are collected. -/
  | collecting (tokens : Nat)
  /-- All tokens were there, so the device was idle. Some are still to be given back. -/
  | returning (tokens : Nat)
  deriving DecidableEq

/-- The tokens that were collected and not given back. -/
def Drain.tokens : Drain → Nat
  | absent => 0
  | collecting n | returning n => n

/-- The slots of a device and who uses them. -/
structure Pool where
  /-- The slots. -/
  slots : Slots
  /-- All calls ever made, in order. -/
  calls : List Call
  /-- The one who waits until the device is idle. -/
  drain : Drain

/-- What can happen. -/
inductive PoolEvent where
  /-- A call is made. -/
  | submit (patience : Duration) (outputs : List BufferSpec)
  /-- Something happens to the call of a number. -/
  | call (k : Nat) (e : CallEvent)
  /-- Somebody begins to wait until the device is idle. -/
  | await
  /-- They take a token. -/
  | collect
  /-- They have all tokens: the wait is over. -/
  | idle
  /-- They give a token back. -/
  | giveBack
  /-- They have given back all tokens. -/
  | finish
  deriving DecidableEq

namespace Pool

/-- A pool without calls. -/
def start (limit : Nat) : Pool := ⟨.ofLimit limit, [], .absent⟩

/-- The tokens in the channel. -/
def free (s : Pool) : Nat := s.slots.free

/-- The number of calls that hold a slot. -/
def held (s : Pool) : Nat := s.calls.countP (·.worker.holds)

/-- The number of calls for which the device runs. -/
def executing (s : Pool) : Nat := s.calls.countP (·.worker.isRunning)

/-- The tokens that were collected. -/
def collected (s : Pool) : Nat := s.drain.tokens

/-- The pool after an event. -/
def step (s : Pool) : PoolEvent → Option Pool
  | .submit patience outputs => some { s with calls := s.calls ++ [.new patience outputs] }
  | .call k e => do
    let c ← s.calls[k]?
    let c' ← c.step e
    let slots ← e.transfer s.slots
    some { s with slots := slots, calls := s.calls.set k c' }
  | .await => if s.drain = .absent then some { s with drain := .collecting 0 } else none
  | .collect =>
    match s.drain with
    | .collecting n =>
      if n < s.slots.capacity then
        s.slots.take?.map fun slots => { s with slots := slots, drain := .collecting (n + 1) }
      else none
    | _ => none
  | .idle =>
    match s.drain with
    | .collecting n =>
      if n = s.slots.capacity then some { s with drain := .returning n } else none
    | _ => none
  | .giveBack =>
    match s.drain with
    | .returning (n + 1) =>
      s.slots.give?.map fun slots => { s with slots := slots, drain := .returning n }
    | _ => none
  | .finish => if s.drain = .returning 0 then some { s with drain := .absent } else none

/-- The pool after some events. -/
def run (s : Pool) (es : List PoolEvent) : Option Pool := es.foldlM step s

end Pool

end Crosscheck
