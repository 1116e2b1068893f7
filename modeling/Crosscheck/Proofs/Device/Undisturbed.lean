import Crosscheck.Proofs.Device.Occupancy
import Mathlib.Algebra.GroupWithZero.Nat

/-!
# Crosscheck.Proofs.Device.Undisturbed

**Calls that nothing disturbs.** No deadline passes, a worker is not started only if its caller breaks
down over it, and the device replies to a call what it replies. In whatever order things happen, a
caller who stays learns the device's answer to the own call or, after a breakdown of the device, that
there is none (`Call.Agrees`). Nobody waits for ever (`Pool.Undisturbed.canServe`), and every step
brings a worker nearer to its end (`Worker.Serve.rank_lt`).

The caller of a call for which no worker can be named never learns anything (`Call.Unstarted`).
-/

namespace Crosscheck

namespace CallEvent

/-- Whether an event belongs to the device's part in a call that is not disturbed: the worker gets a
slot and starts, the device replies, the answer is sent. -/
def serves (reply : DeviceReply) : CallEvent → Bool
  | acquire | spawn | drop | send | disconnect => true
  | .reply r => r == reply
  | refuse | failSpawn _ | timeout | leave | receive | notice => false

/-- Whether an event ends the caller's part in a call that is not disturbed. -/
def parts : CallEvent → Bool
  | leave | receive | notice => true
  | _ => false

end CallEvent

namespace Caller

/-- Whether the caller is still there. -/
def isOpen : Caller → Bool
  | submitting | waiting _ => true
  | left | answered _ | gaveUp _ => false

/-- What the caller has in the end, if anything. -/
def outcome? : Caller → Option Answer
  | answered a => some a
  | gaveUp failure => some (.error failure)
  | submitting | waiting _ | left => none

/-- The caller has learned nothing yet. -/
inductive Pending : Caller → Prop
  | waiting : Pending (waiting none)
  | left : Pending left

/-- The caller knows, or can know, all there is to know. -/
inductive Informed : Option Answer → Caller → Prop
  | sent (a : Answer) : Informed (some a) (waiting (some a))
  | answered (a : Answer) : Informed (some a) (answered a)
  | lost : Informed none (waiting none)
  | gaveUp : Informed none (gaveUp .disconnected)
  | left (answer? : Option Answer) : Informed answer? left

theorem Pending.informed {c : Caller} (h : c.Pending) : c.Informed none := by
  cases h with
  | waiting => exact .lost
  | left => exact .left none

section Steps

variable {patience : Duration} {w : Worker} {c c' : Caller}

/-- A caller does not feel that the device replies. -/
theorem eq_of_step_reply {r : DeviceReply} (h : c.step patience w (.reply r) = some c') : c' = c := by
  cases c <;> exact (Option.some.inj h).symm

/-- Nor that the slot is given back, if there was a worker to hold it. -/
theorem eq_of_step_drop (h : c.step patience w .drop = some c')
    (hw : ∀ reason, w ≠ .stillborn (some reason)) : c' = c := by
  cases w with
  | stillborn reason =>
      cases reason with
      | some reason => exact absurd rfl (hw reason)
      | none => cases c <;> exact (Option.some.inj h).symm
  | _ => cases c <;> exact (Option.some.inj h).symm

theorem eq_of_step_disconnect (h : c.step patience w .disconnect = some c') : c' = c := by
  cases c <;> exact (Option.some.inj h).symm

end Steps

end Caller

/-! ### One call -/

namespace Worker

/-- The device's part in a call, step by step. -/
inductive Serve (outputs : List BufferSpec) (reply : DeviceReply) :
    Worker → CallEvent → Worker → Prop
  | acquire : Serve outputs reply absent .acquire starting
  | spawn : Serve outputs reply starting .spawn running
  | returns {a : Answer} : reply.answer? outputs = some a →
      Serve outputs reply running (.reply reply) (returned a)
  | breaksDown : reply.answer? outputs = none →
      Serve outputs reply running (.reply reply) (unwinding true)
  | drop (a : Answer) : Serve outputs reply (returned a) .drop (answering a)
  | send (a : Answer) : Serve outputs reply (answering a) .send ended
  | dropUnwinding : Serve outputs reply (unwinding true) .drop silent
  | disconnectSilent : Serve outputs reply silent .disconnect ended
  | disconnect : Serve outputs reply (unwinding true) .disconnect (unwinding false)
  | dropDisconnected : Serve outputs reply (unwinding false) .drop ended
  | dropStillborn (reason : Option String) : Serve outputs reply (stillborn reason) .drop ended

variable {outputs : List BufferSpec} {reply : DeviceReply} {e : CallEvent} {w w' : Worker}

/-- What the worker does at an event of the device's part. -/
theorem Serve.of_step (he : e.serves reply = true) (h : w.step outputs e = some w') :
    Serve outputs reply w e w' := by
  rw [step.eq_def] at h
  split at h
  -- the device replies, with an answer or without
  case h_5 r =>
    obtain rfl : r = reply := eq_of_beq he
    split at h
    case h_1 a hanswer =>
      cases h
      exact .returns hanswer
    case h_2 hanswer =>
      cases h
      exact .breaksDown hanswer
  case h_17 => cases h
  -- all other events have one outcome, or are not the device's
  all_goals first
    | cases he; done
    | cases h
      constructor

theorem Serve.step (h : Serve outputs reply w e w') : w.step outputs e = some w' := by
  cases h with
  | returns hanswer => simp [Worker.step, hanswer]
  | breaksDown hanswer => simp [Worker.step, hanswer]
  | _ => rfl

theorem Serve.serves (h : Serve outputs reply w e w') : e.serves reply = true := by
  cases h <;> simp [CallEvent.serves]

/-- How many steps there are to the end, at most. -/
def rank : Worker → Nat
  | absent => 5
  | starting => 4
  | running => 3
  | returned _ | unwinding true => 2
  | answering _ | silent | unwinding false | stillborn _ => 1
  | ended => 0

/-- Every step of the device's part brings the worker nearer to the end. -/
theorem Serve.rank_lt (h : Serve outputs reply w e w') : w'.rank < w.rank := by
  cases h <;> simp only [rank] <;> omega

/-- A worker that cannot be started was about to be. -/
theorem eq_of_step_failSpawn {reason : Option String}
    (h : w.step outputs (.failSpawn reason) = some w') : w = starting ∧ w' = stillborn reason := by
  cases w with
  | starting => exact ⟨rfl, (Option.some.inj h).symm⟩
  | unwinding connected => cases connected <;> cases h
  | _ => cases h

theorem isLeaving_of_step_drop (h : w.step outputs .drop = some w') : w.isLeaving = true := by
  cases w <;> first | rfl | cases h

/-- The caller's part does not concern the worker. -/
theorem step_of_parts (he : e.parts = true) (h : w.step outputs e = some w') : w' = w := by
  rw [step.eq_def] at h
  split at h
  case h_14 | h_15 => exact (Option.some.inj h).symm
  case h_16 =>
    split at h
    · exact (Option.some.inj h).symm
    · cases h
  case h_17 => cases h
  all_goals cases he

end Worker

namespace Call

/-- How far caller and worker can be, given what the device's reply comes to. -/
inductive Agrees (answer? : Option Answer) : Worker → Caller → Prop
  | absent : Agrees answer? .absent .submitting
  | starting : Agrees answer? .starting .submitting
  | stillborn : Agrees answer? (.stillborn none) .left
  | running {c : Caller} : c.Pending → Agrees answer? .running c
  | returned {a : Answer} {c : Caller} :
      answer? = some a → c.Pending → Agrees answer? (.returned a) c
  | answering {a : Answer} {c : Caller} :
      answer? = some a → c.Pending → Agrees answer? (.answering a) c
  | unwinding {c : Caller} : answer? = none → c.Pending → Agrees answer? (.unwinding true) c
  | silent {c : Caller} : answer? = none → c.Pending → Agrees answer? .silent c
  | disconnected {c : Caller} :
      answer? = none → c.Informed none → Agrees answer? (.unwinding false) c
  | ended {c : Caller} : c.Informed answer? → Agrees answer? .ended c

section Steps

variable {reply : DeviceReply} {answer? : Option Answer} {outputs : List BufferSpec}
  {patience : Duration} {e : CallEvent} {w w' : Worker} {c c' : Caller}

/-- **The device's part keeps caller and worker in agreement**, and no caller goes away by it. -/
theorem Agrees.serve (h : Agrees (reply.answer? outputs) w c)
    (hworker : w.Serve outputs reply e w') (hcaller : c.step patience w e = some c') :
    Agrees (reply.answer? outputs) w' c' ∧ c'.isOpen = c.isOpen := by
  cases hworker with
  | acquire =>
      cases h
      cases hcaller
      exact ⟨.starting, rfl⟩
  | spawn =>
      cases h
      cases hcaller
      exact ⟨.running .waiting, rfl⟩
  | returns hanswer =>
      cases h with
      | running hpending =>
          obtain rfl := Caller.eq_of_step_reply hcaller
          exact ⟨.returned hanswer hpending, rfl⟩
  | breaksDown hanswer =>
      cases h with
      | running hpending =>
          obtain rfl := Caller.eq_of_step_reply hcaller
          exact ⟨.unwinding hanswer hpending, rfl⟩
  | drop a =>
      cases h with
      | returned hanswer hpending =>
          obtain rfl := Caller.eq_of_step_drop hcaller nofun
          exact ⟨.answering hanswer hpending, rfl⟩
  | send a =>
      cases h with
      | answering hanswer hpending =>
          rw [hanswer]
          cases hpending <;> cases hcaller
          · exact ⟨.ended (.sent a), rfl⟩
          · exact ⟨.ended (.left _), rfl⟩
  | dropUnwinding =>
      cases h with
      | unwinding hanswer hpending =>
          obtain rfl := Caller.eq_of_step_drop hcaller nofun
          exact ⟨.silent hanswer hpending, rfl⟩
  | disconnectSilent =>
      cases h with
      | silent hanswer hpending =>
          obtain rfl := Caller.eq_of_step_disconnect hcaller
          exact ⟨.ended (hanswer ▸ hpending.informed), rfl⟩
  | disconnect =>
      cases h with
      | unwinding hanswer hpending =>
          obtain rfl := Caller.eq_of_step_disconnect hcaller
          exact ⟨.disconnected hanswer hpending.informed, rfl⟩
  | dropDisconnected =>
      cases h with
      | disconnected hanswer hinformed =>
          obtain rfl := Caller.eq_of_step_drop hcaller nofun
          exact ⟨.ended (hanswer ▸ hinformed), rfl⟩
  | dropStillborn reason =>
      cases h
      obtain rfl := Caller.eq_of_step_drop hcaller nofun
      exact ⟨.ended (.left _), rfl⟩

/-- **The caller's part does so as well.** Who does not leave learns the device's answer, or that
there is none. -/
theorem Agrees.part (h : Agrees answer? w c) (he : e.parts = true)
    (hworker : w.step outputs e = some w') (hcaller : c.step patience w e = some c') :
    Agrees answer? w c' := by
  cases e with
  | leave =>
      have hleft : c' = .left := by
        cases c <;> cases hcaller
        rfl
      subst hleft
      cases h with
      | absent | starting => cases hcaller
      | stillborn => exact .stillborn
      | running => exact .running .left
      | returned hanswer => exact .returned hanswer .left
      | answering hanswer => exact .answering hanswer .left
      | unwinding hanswer => exact .unwinding hanswer .left
      | silent hanswer => exact .silent hanswer .left
      | disconnected hanswer => exact .disconnected hanswer (.left none)
      | ended => exact .ended (.left answer?)
  | receive =>
      -- an answer is on its way only when the worker has ended
      cases h with
      | absent | starting | stillborn => cases hcaller
      | running hpending | silent _ hpending | returned _ hpending | answering _ hpending
      | unwinding _ hpending => cases hpending <;> cases hcaller
      | disconnected _ hinformed => cases hinformed <;> cases hcaller
      | ended hinformed =>
          cases hinformed <;> cases hcaller
          exact .ended (.answered _)
  | notice =>
      -- nobody notices anything before the worker has let go
      cases h with
      | disconnected hanswer hinformed =>
          cases hinformed <;> cases hcaller
          exact .disconnected hanswer .gaveUp
      | ended hinformed =>
          cases hinformed <;> cases hcaller
          exact .ended .gaveUp
      | _ => cases hworker
  | _ => cases he

/-- A caller who breaks down over the start of the worker is gone. -/
theorem Agrees.breakDown (h : Agrees answer? w c)
    (hworker : w.step outputs (.failSpawn none) = some w')
    (hcaller : c.step patience w (.failSpawn none) = some c') : Agrees answer? w' c' := by
  obtain ⟨rfl, rfl⟩ := Worker.eq_of_step_failSpawn hworker
  cases h
  cases hcaller
  exact .stillborn

/-- What a caller knows in the end is what the device's reply to the own call comes to. -/
theorem Agrees.eq_of_outcome {outcome : Answer} (h : Agrees answer? w c)
    (houtcome : c.outcome? = some outcome) : outcome = answer?.getD (.error .disconnected) := by
  cases h with
  | absent | starting | stillborn => cases houtcome
  | running hpending | silent _ hpending | returned _ hpending | answering _ hpending
  | unwinding _ hpending => cases hpending <;> cases houtcome
  | disconnected hanswer hinformed =>
      rw [hanswer]
      cases hinformed <;> cases houtcome
      rfl
  | ended hinformed => cases hinformed <;> cases houtcome <;> rfl

/-- **Who has a slot can go on.** -/
theorem Agrees.exists_serve (patience : Duration) (h : Agrees (reply.answer? outputs) w c)
    (hw : w ≠ .absent) (hended : w ≠ .ended) :
    ∃ e w', w.Serve outputs reply e w' ∧ e ≠ .acquire ∧ (c.step patience w e).isSome = true := by
  cases h with
  | absent => exact absurd rfl hw
  | starting => exact ⟨_, _, .spawn, nofun, rfl⟩
  | stillborn => exact ⟨_, _, .dropStillborn none, nofun, rfl⟩
  | running hpending =>
      cases hanswer : reply.answer? outputs with
      | some a => exact ⟨_, _, .returns hanswer, nofun, by cases hpending <;> rfl⟩
      | none => exact ⟨_, _, .breaksDown hanswer, nofun, by cases hpending <;> rfl⟩
  | returned hanswer hpending => exact ⟨_, _, .drop _, nofun, by cases hpending <;> rfl⟩
  | answering hanswer hpending => exact ⟨_, _, .send _, nofun, by cases hpending <;> rfl⟩
  | unwinding hanswer hpending => exact ⟨_, _, .dropUnwinding, nofun, by cases hpending <;> rfl⟩
  | silent hanswer hpending => exact ⟨_, _, .disconnectSilent, nofun, by cases hpending <;> rfl⟩
  | disconnected hanswer hinformed =>
      exact ⟨_, _, .dropDisconnected, nofun, by cases hinformed <;> rfl⟩
  | ended => exact absurd rfl hended

/-- When the worker has ended, a caller who is still there can leave, and can learn what there is to
know. -/
theorem Agrees.exists_part (patience : Duration) (h : Agrees answer? .ended c)
    (hopen : c.isOpen = true) :
    c.step patience .ended .leave = some .left ∧
      ∃ e c' outcome, (e = .receive ∨ e = .notice) ∧ c.step patience .ended e = some c' ∧
        c'.outcome? = some outcome := by
  cases h with
  | ended hinformed =>
      cases hinformed with
      | sent a => exact ⟨rfl, .receive, .answered a, _, .inl rfl, rfl, rfl⟩
      | lost => exact ⟨rfl, .notice, .gaveUp .disconnected, _, .inr rfl, rfl, rfl⟩
      | _ => cases hopen

/-- When a worker starts, its caller waits for that. -/
theorem starting_of_step_spawn {call call' : Call} (h : call.step .spawn = some call') :
    call.worker = .starting ∧ call.caller = .submitting := by
  obtain ⟨hworker, hcaller⟩ := step_eq_some h
  constructor
  · generalize call.worker = w at hworker
    cases w with
    | starting => rfl
    | unwinding connected => cases connected <;> cases hworker
    | _ => cases hworker
  · generalize call.caller = c at hcaller
    cases c with
    | submitting => rfl
    | waiting sent => cases sent <;> cases hcaller
    | _ => cases hcaller

/-- An event changes caller and worker only. -/
theorem outputs_of_step {call call' : Call} (h : call.step e = some call') :
    call'.outputs = call.outputs := by
  rw [step] at h
  split at h
  · cases h
    rfl
  · cases h

end Steps

end Call

/-! ### All calls -/

/-- Adding up after one element has changed. -/
theorem sum_map_set_add (f : α → Nat) {as : List α} {k : Nat} {a : α} (b : α) (h : as[k]? = some a) :
    ((as.set k b).map f).sum + f a = (as.map f).sum + f b := by
  induction as generalizing k with
  | nil => cases h
  | cons c as ih =>
      cases k with
      | zero =>
          cases h
          simp only [List.set_cons_zero, List.map_cons, List.sum_cons]
          omega
      | succ k =>
          have hlater := ih h
          simp only [List.set_cons_succ, List.map_cons, List.sum_cons]
          omega

namespace Pool

/-- How many steps the workers are from their ends, at most. -/
def work (s : Pool) : Nat := (s.calls.map (·.worker.rank)).sum

/-- The tokens are there, and every call agrees with what the device replies to it. `asked` are the
calls that were made, in order. -/
structure Undisturbed (d : Device) (limit : Nat) (asked : List DeviceCall) (s : Pool) : Prop where
  /-- No token is lost. -/
  balanced : s.Balanced limit
  /-- What was asked is known for every call. -/
  length : asked.length = s.calls.length
  /-- Every call agrees with the reply. -/
  agrees : ∀ (k : Nat) (call : DeviceCall) (c : Call), asked[k]? = some call → s.calls[k]? = some c →
    c.outputs = call.outputs ∧ Call.Agrees ((d.reply call).answer? call.outputs) c.worker c.caller

/-- The device's part in some call can go on. -/
def CanServe (d : Device) (asked : List DeviceCall) (s : Pool) : Prop :=
  ∃ k call e, asked[k]? = some call ∧ e.serves (d.reply call) = true ∧
    (s.step (.call k e)).isSome = true

variable {d : Device} {limit k : Nat} {asked : List DeviceCall} {s s' : Pool} {call : DeviceCall}
  {c : Call} {e : CallEvent}

theorem Undisturbed.start (d : Device) (limit : Nat) : (start limit).Undisturbed d limit [] where
  balanced := .start limit
  length := rfl
  agrees k call c hcall := by cases hcall

theorem Undisturbed.exists_asked (h : s.Undisturbed d limit asked) (hc : s.calls[k]? = some c) :
    ∃ call, asked[k]? = some call := by
  obtain ⟨hk, -⟩ := List.getElem?_eq_some_iff.1 hc
  have hasked : k < asked.length := h.length ▸ hk
  exact ⟨asked[k], List.getElem?_eq_getElem hasked⟩

theorem Undisturbed.submit {patience : Duration} (h : s.Undisturbed d limit asked) (call : DeviceCall)
    (hstep : s.step (.submit patience call.outputs) = some s') :
    s'.Undisturbed d limit (asked ++ [call]) := by
  have hbalanced := h.balanced.step hstep
  cases hstep
  refine ⟨hbalanced, by simp [h.length], ?_⟩
  intro k other c hother hc
  rw [List.getElem?_append] at hother hc
  rw [h.length] at hother
  split at hc
  case isTrue hk =>
    rw [if_pos hk] at hother
    exact h.agrees k other c hother hc
  case isFalse hk =>
    rw [if_neg hk] at hother
    obtain rfl := List.mem_singleton.1 (List.mem_of_getElem? hother)
    obtain rfl := List.mem_singleton.1 (List.mem_of_getElem? hc)
    exact ⟨rfl, .absent⟩

/-- What happens to a call without disturbing it. -/
theorem Undisturbed.step_call (h : s.Undisturbed d limit asked) (hcall : asked[k]? = some call)
    (he : e.serves (d.reply call) = true ∨ e.parts = true ∨ e = .failSpawn none)
    (hstep : s.step (.call k e) = some s') : s'.Undisturbed d limit asked := by
  obtain ⟨c, c', hc, hcstep, hcalls, -, -⟩ := step_call_eq_some hstep
  obtain ⟨hworker, hcaller⟩ := Call.step_eq_some hcstep
  refine ⟨h.balanced.step hstep, by rw [hcalls, List.length_set, h.length], ?_⟩
  intro j other c₁ hother hc₁
  rw [hcalls] at hc₁
  by_cases hj : k = j
  · subst hj
    obtain rfl : call = other := Option.some.inj (hcall.symm.trans hother)
    rw [List.getElem?_set_self (List.getElem?_eq_some_iff.1 hc).1] at hc₁
    obtain rfl := Option.some.inj hc₁
    obtain ⟨houtputs, hagrees⟩ := h.agrees k call c hcall hc
    refine ⟨(Call.outputs_of_step hcstep).trans houtputs, ?_⟩
    rw [houtputs] at hworker
    rcases he with he | he | rfl
    · exact (hagrees.serve (.of_step he hworker) hcaller).1
    · rw [Worker.step_of_parts he hworker]
      exact hagrees.part he hworker hcaller
    · exact hagrees.breakDown hworker hcaller
  · rw [List.getElem?_set_ne hj] at hc₁
    exact h.agrees j other c₁ hother hc₁

/-- Waiting until the device is idle does not concern the calls. -/
theorem Undisturbed.of_calls_eq {e : PoolEvent} (h : s.Undisturbed d limit asked)
    (hstep : s.step e = some s') (hcalls : s'.calls = s.calls) : s'.Undisturbed d limit asked where
  balanced := h.balanced.step hstep
  length := hcalls ▸ h.length
  agrees k call c hcall hc := h.agrees k call c hcall (hcalls ▸ hc)

/-- There is room in the channel for every token that is given back, so a call can go on unless it
needs a token. -/
theorem Balanced.call_isSome {c' : Call} (h : s.Balanced limit) (hc : s.calls[k]? = some c)
    (hcall : c.step e = some c') (he : e ≠ .acquire) : (s.step (.call k e)).isSome = true := by
  by_cases hdrop : e = .drop
  · subst hdrop
    have hleaving := Worker.isLeaving_of_step_drop (Call.step_eq_some hcall).1
    exact (h.drop_isSome hc hleaving).2
  · have htransfer : e.transfer s.slots = some s.slots := by
      cases e with
      | acquire => exact absurd rfl he
      | drop => exact absurd rfl hdrop
      | _ => rfl
    simp [Pool.step, hc, hcall, htransfer]

/-- **Who has a slot can go on**, whatever the others do. -/
theorem Undisturbed.exists_serve (h : s.Undisturbed d limit asked) (hc : s.calls[k]? = some c)
    (hw : c.worker ≠ .absent) (hended : c.worker ≠ .ended) : s.CanServe d asked := by
  obtain ⟨call, hcall⟩ := h.exists_asked hc
  obtain ⟨houtputs, hagrees⟩ := h.agrees k call c hcall hc
  obtain ⟨e, w', hserve, he, hcaller⟩ := hagrees.exists_serve c.patience hw hended
  obtain ⟨caller, hcaller⟩ := Option.isSome_iff_exists.1 hcaller
  have hworker : c.worker.step c.outputs e = some w' := houtputs ▸ hserve.step
  have hstep : c.step e = some { c with caller := caller, worker := w' } := by
    simp [Call.step, hworker, hcaller]
  exact ⟨k, _, e, hcall, hserve.serves, h.balanced.call_isSome hc hstep he⟩

/-- If no slot is free and not all of them are collected, then some call has one and can go on. -/
theorem Undisturbed.take_or_serve (h : s.Undisturbed d limit asked)
    (hcollected : s.collected < max 1 limit) :
    (∃ slots, s.slots.take? = some slots) ∨ s.CanServe d asked := by
  by_cases hfree : s.slots.inUse < s.slots.capacity
  · have htake : s.slots.take?.isSome = true := by
      rw [Slots.take?, Slots.acquire, dif_pos hfree]
      rfl
    exact .inl (Option.isSome_iff_exists.1 htake)
  · -- the tokens that nobody has collected are held
    have hheld : 0 < s.held := by
      have hinUse := h.balanced.inUse
      have hcapacity := h.balanced.capacity
      omega
    obtain ⟨c, hc, hholds⟩ := List.countP_pos_iff.1 hheld
    obtain ⟨k, hk⟩ := List.getElem?_of_mem hc
    refine .inr (h.exists_serve hk ?_ ?_)
    · intro heq
      rw [heq] at hholds
      cases hholds
    · intro heq
      rw [heq] at hholds
      cases hholds

/-- **Nobody waits for ever**: while nobody collects slots, a call whose worker has not ended goes
on, or another call that keeps it waiting does. -/
theorem Undisturbed.canServe (h : s.Undisturbed d limit asked) (hdrain : s.drain = .absent)
    (hc : s.calls[k]? = some c) (hended : c.worker ≠ .ended) : s.CanServe d asked := by
  by_cases habsent : c.worker = .absent
  · have hnone : s.collected < max 1 limit := by
      rw [collected, hdrain, Drain.tokens]
      omega
    rcases h.take_or_serve hnone with ⟨slots, htake⟩ | hserve
    · -- there is a slot for the call itself
      obtain ⟨call, hcall⟩ := h.exists_asked hc
      have hagrees := (h.agrees k call c hcall hc).2
      have hstep : ∃ c', c.step .acquire = some c' := by
        rw [Call.step, habsent]
        rw [habsent] at hagrees
        generalize c.caller = caller at hagrees
        cases hagrees
        exact ⟨_, rfl⟩
      obtain ⟨c', hstep⟩ := hstep
      refine ⟨k, call, .acquire, hcall, rfl, ?_⟩
      simp [Pool.step, hc, hstep, CallEvent.transfer, htake]
    · exact hserve
  · exact h.exists_serve hc habsent hended

/-! ### The work that is left -/

theorem work_submit {patience : Duration} {outputs : List BufferSpec}
    (h : s.step (.submit patience outputs) = some s') : s'.work = s.work + 5 := by
  cases h
  simp [work, Call.new, Worker.rank]

/-- A step that brings the worker nearer to its end leaves less work. -/
theorem work_lt (hstep : s.step (.call k e) = some s')
    (hlower : ∀ outputs w w', Worker.step outputs w e = some w' → w'.rank < w.rank) :
    s'.work < s.work := by
  obtain ⟨c, c', hc, hcstep, hcalls, -, -⟩ := step_call_eq_some hstep
  have hworker := hlower _ _ _ (Call.step_eq_some hcstep).1
  have hsum := sum_map_set_add (·.worker.rank) c' hc
  rw [work, work, hcalls]
  omega

theorem work_serve {reply : DeviceReply} (he : e.serves reply = true)
    (hstep : s.step (.call k e) = some s') : s'.work < s.work :=
  work_lt hstep fun _ _ _ hworker => (Worker.Serve.of_step he hworker).rank_lt

theorem work_breakDown (hstep : s.step (.call k (.failSpawn none)) = some s') : s'.work < s.work :=
  work_lt hstep fun _ _ _ hworker => by
    obtain ⟨rfl, rfl⟩ := Worker.eq_of_step_failSpawn hworker
    decide

theorem work_part (he : e.parts = true) (hstep : s.step (.call k e) = some s') :
    s'.work = s.work := by
  obtain ⟨c, c', hc, hcstep, hcalls, -, -⟩ := step_call_eq_some hstep
  have hsame : c'.worker = c.worker := Worker.step_of_parts he (Call.step_eq_some hcstep).1
  have hsum := sum_map_set_add (·.worker.rank) c' hc
  rw [hsame] at hsum
  rw [work, work, hcalls]
  omega

end Pool

/-! ### Calls for which no worker can be named -/

/-- Where worker and caller of such a call can be. -/
inductive Call.Unstarted : Worker → Caller → Prop
  | absent : Unstarted .absent .submitting
  | starting : Unstarted .starting .submitting
  | stillborn : Unstarted (.stillborn none) .left
  | ended : Unstarted .ended .left

namespace Call.Unstarted

variable {reply : DeviceReply} {outputs : List BufferSpec} {patience : Duration} {e : CallEvent}
  {w w' : Worker} {c c' : Caller}

theorem serve (h : Unstarted w c) (hspawn : e ≠ .spawn) (hworker : w.Serve outputs reply e w')
    (hcaller : c.step patience w e = some c') : Unstarted w' c' := by
  cases h with
  | absent =>
      cases hworker
      cases hcaller
      exact .starting
  | starting =>
      cases hworker
      exact absurd rfl hspawn
  | stillborn =>
      cases hworker
      cases hcaller
      exact .ended
  | ended => cases hworker

theorem breakDown (h : Unstarted w c) (hworker : w.step outputs (.failSpawn none) = some w')
    (hcaller : c.step patience w (.failSpawn none) = some c') : Unstarted w' c' := by
  obtain ⟨rfl, rfl⟩ := Worker.eq_of_step_failSpawn hworker
  cases h
  cases hcaller
  exact .stillborn

/-- Nobody is done with such a call. -/
theorem step_of_parts (h : Unstarted w c) (he : e.parts = true) : c.step patience w e = none := by
  cases e with
  | leave | receive | notice => cases h <;> rfl
  | _ => cases he

end Call.Unstarted

namespace Pool

/-- Of the calls that were made, no worker was started for those for which none can be named. -/
def Unstarted (asked : List DeviceCall) (s : Pool) : Prop :=
  ∀ (k : Nat) (call : DeviceCall) (c : Call), asked[k]? = some call → s.calls[k]? = some c →
    call.isNameable = false → Call.Unstarted c.worker c.caller

variable {k : Nat} {asked : List DeviceCall} {s s' : Pool} {call : DeviceCall} {e : CallEvent}

theorem Unstarted.submit {patience : Duration} {outputs : List BufferSpec} (h : s.Unstarted asked)
    (hlength : asked.length = s.calls.length) (call : DeviceCall)
    (hstep : s.step (.submit patience outputs) = some s') : s'.Unstarted (asked ++ [call]) := by
  cases hstep
  intro k other c hother hc hnameable
  rw [List.getElem?_append] at hother hc
  rw [hlength] at hother
  split at hc
  case isTrue hk =>
    rw [if_pos hk] at hother
    exact h k other c hother hc hnameable
  case isFalse hk =>
    obtain rfl := List.mem_singleton.1 (List.mem_of_getElem? hc)
    exact .absent

theorem Unstarted.step_call (reply : DeviceReply) (h : s.Unstarted asked)
    (hcall : asked[k]? = some call)
    (he : e.serves reply = true ∧ (e = .spawn → call.isNameable = true) ∨ e.parts = true ∨
      e = .failSpawn none)
    (hstep : s.step (.call k e) = some s') : s'.Unstarted asked := by
  obtain ⟨c, c', hc, hcstep, hcalls, -, -⟩ := step_call_eq_some hstep
  obtain ⟨hworker, hcaller⟩ := Call.step_eq_some hcstep
  intro j other c₁ hother hc₁ hnameable
  rw [hcalls] at hc₁
  by_cases hj : k = j
  · subst hj
    obtain rfl : call = other := Option.some.inj (hcall.symm.trans hother)
    rw [List.getElem?_set_self (List.getElem?_eq_some_iff.1 hc).1] at hc₁
    obtain rfl := Option.some.inj hc₁
    have hbefore := h k call c hcall hc hnameable
    rcases he with ⟨he, hspawn⟩ | he | rfl
    · refine hbefore.serve (fun heq => ?_) (.of_step he hworker) hcaller
      rw [hspawn heq] at hnameable
      cases hnameable
    · rw [hbefore.step_of_parts he] at hcaller
      cases hcaller
    · exact hbefore.breakDown hworker hcaller
  · rw [List.getElem?_set_ne hj] at hc₁
    exact h j other c₁ hother hc₁ hnameable

end Pool

end Crosscheck
