import Crosscheck.Proofs.Device.Pool
import Crosscheck.Proofs.List

/-!
# Crosscheck.Proofs.Device.Occupancy

**No slot is lost and none is doubled, whatever happens in which order.** Every event keeps the
tokens balanced (`Pool.Balanced.step`): those in the channel, those that calls hold and those that
are collected are as many as there are slots. A call takes one token at most and gives it back once
(`Pool.count_of_run`), and only then its answer is sent (`Call.Settled.step`).
-/

namespace Crosscheck

/-! ### Moving tokens -/

namespace Slots

theorem take?_eq_some {s t : Slots} (h : s.take? = some t) :
    t.capacity = s.capacity ∧ t.inUse = s.inUse + 1 := by
  rw [take?, acquire] at h
  split at h
  · cases h
    exact ⟨rfl, rfl⟩
  · cases h

theorem free_lt_iff (s : Slots) : s.free < s.capacity ↔ 0 < s.inUse := by
  have hpos := s.capacity_pos
  have hle := s.inUse_le
  rw [free]
  omega

theorem give?_eq_some {s t : Slots} (h : s.give? = some t) :
    t.capacity = s.capacity ∧ t.inUse + 1 = s.inUse := by
  rw [give?] at h
  split at h
  case isTrue hroom =>
    rw [free_lt_iff] at hroom
    cases h
    exact ⟨rfl, Nat.sub_add_cancel hroom⟩
  case isFalse => cases h

theorem give?_isSome {s : Slots} (h : 0 < s.inUse) : s.give?.isSome = true := by
  rw [give?, if_pos ((free_lt_iff s).2 h)]
  rfl

end Slots

namespace CallEvent

/-- The tokens that an event takes out of the channel. -/
def taken (e : CallEvent) : Nat := if e = .acquire then 1 else 0

/-- The tokens that an event puts back. -/
def given (e : CallEvent) : Nat := if e = .drop then 1 else 0

theorem transfer_eq_some {e : CallEvent} {s t : Slots} (h : e.transfer s = some t) :
    t.capacity = s.capacity ∧ t.inUse + e.given = s.inUse + e.taken := by
  cases e with
  | acquire => exact Slots.take?_eq_some h
  | drop => exact Slots.give?_eq_some h
  | _ =>
      cases h
      exact ⟨rfl, rfl⟩

end CallEvent

/-! ### One call -/

namespace Worker

/-- Whether the call has got a slot, now or before. -/
def isBegun : Worker → Bool
  | absent => false
  | _ => true

/-- **What an event does with the slot of a call.** It is taken once, at the beginning, and given back
by whoever holds it. -/
theorem step_tokens {outputs : List BufferSpec} {w w' : Worker} {e : CallEvent}
    (h : w.step outputs e = some w') :
    w'.holds.toNat + e.given = w.holds.toNat + e.taken ∧
      w'.isBegun.toNat = w.isBegun.toNat + e.taken := by
  rw [step.eq_def] at h
  split at h
  -- the device replies, with an answer or without
  case h_5 r =>
    split at h
    all_goals
      cases h
      exact ⟨rfl, rfl⟩
  -- the caller can only notice a worker that is gone
  case h_16 =>
    split at h
    · cases h
      exact ⟨rfl, rfl⟩
    · cases h
  case h_17 => cases h
  all_goals
    cases h
    exact ⟨rfl, rfl⟩

/-- Who is gone does nothing any more. -/
theorem step_ended {outputs : List BufferSpec} {w : Worker} {e : CallEvent}
    (h : ended.step outputs e = some w) : w = ended := by
  cases e <;> cases h <;> rfl

/-- The worker does not notice that the caller gives up. -/
theorem step_of_giveUp {outputs : List BufferSpec} {w w' : Worker} {e : CallEvent}
    (he : e = .timeout ∨ e = .refuse) (h : w.step outputs e = some w') : w' = w := by
  rcases he with rfl | rfl
  all_goals
    cases w with
    | unwinding connected => cases connected <;> cases h <;> rfl
    | _ => cases h <;> rfl

theorem holds_of_isRunning {w : Worker} (h : w.isRunning = true) : w.holds = true := by
  cases w <;> first | rfl | cases h

end Worker

namespace Caller

variable {patience : Duration} {w : Worker} {c : Caller} {e : CallEvent} {a : Answer}

/-- An answer on its way was on its way before, or the worker is sending it. -/
theorem eq_waiting_of_step (h : c.step patience w e = some (waiting (some a))) :
    c = waiting (some a) ∨ e = .send ∧ w = .answering a := by
  rw [step.eq_def] at h
  split at h
  -- a slot is dropped, which only a caller without a worker feels
  case h_10 =>
    split at h
    · cases h
    · exact .inl (Option.some.inj h)
  -- the answer is sent
  case h_11 =>
    split at h
    · cases h
      exact .inr ⟨rfl, rfl⟩
    · exact .inl (Option.some.inj h)
  all_goals first | cases h; done | exact .inl (Option.some.inj h)

/-- An answer that the caller has was there before, or it was on its way. -/
theorem eq_answered_of_step (h : c.step patience w e = some (answered a)) :
    c = answered a ∨ c = waiting (some a) := by
  rw [step.eq_def] at h
  split at h
  -- the answer is received
  case h_8 =>
    cases h
    exact .inr rfl
  case h_10 =>
    split at h
    · cases h
    · exact .inl (Option.some.inj h)
  case h_11 =>
    split at h
    · cases h
    · exact .inl (Option.some.inj h)
  all_goals first | cases h; done | exact .inl (Option.some.inj h)

end Caller

namespace Call

theorem step_eq_some {c c' : Call} {e : CallEvent} (h : c.step e = some c') :
    c.worker.step c.outputs e = some c'.worker ∧
      c.caller.step c.patience c.worker e = some c'.caller := by
  rw [step] at h
  split at h
  case h_1 worker caller hworker hcaller =>
    cases h
    exact ⟨hworker, hcaller⟩
  case h_2 => cases h

/-- Nothing but the channel can keep a call from giving back its token. -/
theorem exists_drop {c : Call} (h : c.worker.isLeaving = true) : ∃ c', c.step .drop = some c' := by
  rw [step]
  cases hworker : c.worker with
  | stillborn reason => cases reason <;> cases c.caller <;> exact ⟨_, rfl⟩
  | returned a => cases c.caller <;> exact ⟨_, rfl⟩
  | unwinding connected => cases connected <;> cases c.caller <;> exact ⟨_, rfl⟩
  | _ => simp [hworker, Worker.isLeaving] at h

/-- If the answer has been sent, then the worker is gone. -/
structure Settled (c : Call) : Prop where
  /-- The answer is on its way. -/
  sent : ∀ a, c.caller = .waiting (some a) → c.worker = .ended
  /-- The caller has the answer. -/
  answered : ∀ a, c.caller = .answered a → c.worker = .ended

theorem Settled.new (patience : Duration) (outputs : List BufferSpec) :
    (new patience outputs).Settled where
  sent _ h := by cases h
  answered _ h := by cases h

/-- **The answer is sent last.** -/
theorem Settled.step {c c' : Call} {e : CallEvent} (h : c.Settled) (hstep : c.step e = some c') :
    c'.Settled := by
  obtain ⟨hworker, hcaller⟩ := step_eq_some hstep
  -- a worker that was gone before is still gone
  have hended : c.worker = .ended → c'.worker = .ended := by
    intro heq
    rw [heq] at hworker
    exact Worker.step_ended hworker
  constructor
  · intro a ha
    rcases Caller.eq_waiting_of_step (ha ▸ hcaller) with hsent | ⟨rfl, hanswering⟩
    · exact hended (h.sent a hsent)
    · rw [hanswering] at hworker
      exact (Option.some.inj hworker).symm
  · intro a ha
    rcases Caller.eq_answered_of_step (ha ▸ hcaller) with hanswered | hsent
    · exact hended (h.answered a hanswered)
    · exact hended (h.sent a hsent)

end Call

/-! ### All calls -/

namespace PoolEvent

/-- What an event moves for the call of a number. -/
def moved (f : CallEvent → Nat) (k : Nat) : PoolEvent → Nat
  | .call j e => if j = k then f e else 0
  | _ => 0

/-- What a run moves for the call of a number. -/
def total (f : CallEvent → Nat) (k : Nat) : List PoolEvent → Nat
  | [] => 0
  | e :: es => e.moved f k + total f k es

/-- Moving one token at every event of a kind, a run moves as many as there are such events. -/
theorem total_eq_count (kind : CallEvent) (k : Nat) (es : List PoolEvent) :
    total (fun e => if e = kind then 1 else 0) k es = es.count (.call k kind) := by
  induction es with
  | nil => rfl
  | cons e es ih =>
      rw [total, ih, List.count_cons, Nat.add_comm]
      congr 1
      cases e with
      | call j ce =>
          by_cases hj : j = k
          · simp [moved, hj]
          · simp [moved, hj]
      | _ => simp [moved]

theorem total_zero (k : Nat) (es : List PoolEvent) : total (fun _ => 0) k es = 0 := by
  induction es with
  | nil => rfl
  | cons e es ih =>
      rw [total, ih]
      cases e <;> simp [moved]

end PoolEvent

namespace Pool

variable {s s' : Pool} {e : PoolEvent} {es : List PoolEvent} {limit : Nat}

/-- What an event of a call does to the pool. -/
theorem step_call_eq_some {k : Nat} {e : CallEvent} (h : s.step (.call k e) = some s') :
    ∃ c c', s.calls[k]? = some c ∧ c.step e = some c' ∧ s'.calls = s.calls.set k c' ∧
      e.transfer s.slots = some s'.slots ∧ s'.drain = s.drain := by
  rw [step] at h
  simp only [Option.bind_eq_bind, Option.bind_eq_some_iff] at h
  obtain ⟨c, hc, c', hstep, slots, hslots, ⟨⟩⟩ := h
  exact ⟨c, c', hc, hstep, rfl, hslots, rfl⟩

theorem collect_eq_some (h : s.step .collect = some s') :
    ∃ n, s.drain = .collecting n ∧ ∃ slots, s.slots.take? = some slots ∧
      s' = { s with slots := slots, drain := .collecting (n + 1) } := by
  rw [step] at h
  split at h
  case h_1 n hdrain =>
    split at h
    case isTrue =>
      obtain ⟨slots, htake, rfl⟩ := Option.map_eq_some_iff.1 h
      exact ⟨n, hdrain, slots, htake, rfl⟩
    case isFalse => cases h
  case h_2 => cases h

theorem idle_eq_some (h : s.step .idle = some s') :
    ∃ n, s.drain = .collecting n ∧ n = s.slots.capacity ∧
      s' = { s with drain := .returning n } := by
  rw [step] at h
  split at h
  case h_1 n hdrain =>
    split at h
    case isTrue hall =>
      cases h
      exact ⟨n, hdrain, hall, rfl⟩
    case isFalse => cases h
  case h_2 => cases h

theorem giveBack_eq_some (h : s.step .giveBack = some s') :
    ∃ n, s.drain = .returning (n + 1) ∧ ∃ slots, s.slots.give? = some slots ∧
      s' = { s with slots := slots, drain := .returning n } := by
  rw [step] at h
  split at h
  case h_1 n hdrain =>
    obtain ⟨slots, hgive, rfl⟩ := Option.map_eq_some_iff.1 h
    exact ⟨n, hdrain, slots, hgive, rfl⟩
  case h_2 => cases h

theorem await_eq_some (h : s.step .await = some s') :
    s.drain = .absent ∧ s' = { s with drain := .collecting 0 } := by
  rw [step] at h
  split at h
  case isTrue hdrain => exact ⟨hdrain, (Option.some.inj h).symm⟩
  case isFalse => cases h

theorem finish_eq_some (h : s.step .finish = some s') :
    s.drain = .returning 0 ∧ s' = { s with drain := .absent } := by
  rw [step] at h
  split at h
  case isTrue hdrain => exact ⟨hdrain, (Option.some.inj h).symm⟩
  case isFalse => cases h

theorem run_cons_eq_some (h : s.run (e :: es) = some s') :
    ∃ t, s.step e = some t ∧ t.run es = some s' := by
  rw [run, List.foldlM_cons] at h
  exact Option.bind_eq_some_iff.1 h

/-- Counting after one call has changed. -/
theorem countP_set_add (p : Call → Bool) {calls : List Call} {k : Nat} {c : Call} (c' : Call)
    (h : calls[k]? = some c) :
    (calls.set k c').countP p + (p c).toNat = calls.countP p + (p c').toNat := by
  obtain ⟨hk, rfl⟩ := List.getElem?_eq_some_iff.1 h
  have hpos : p calls[k] = true → 0 < calls.countP p := fun hp =>
    List.countP_pos_iff.2 ⟨_, List.getElem_mem hk, hp⟩
  rw [List.countP_set hk]
  cases hp : p calls[k] with
  | false => cases p c' <;> simp
  | true =>
      have hpos := hpos hp
      cases p c' <;> simp <;> omega

/-- All tokens are there: those in use are held by calls or collected. -/
structure Balanced (limit : Nat) (s : Pool) : Prop where
  /-- The number of slots does not change. -/
  capacity : s.slots.capacity = max 1 limit
  /-- Who has the tokens in use. -/
  inUse : s.slots.inUse = s.held + s.collected

theorem Balanced.start (limit : Nat) : Balanced limit (start limit) where
  capacity := rfl
  inUse := rfl

/-- **Every event keeps the tokens balanced.** -/
theorem Balanced.step (h : Balanced limit s) (hstep : s.step e = some s') : Balanced limit s' := by
  obtain ⟨hcapacity, hinUse⟩ := h
  cases e with
  | submit patience outputs =>
      cases hstep
      refine ⟨hcapacity, ?_⟩
      rw [hinUse, held, held, List.countP_append]
      rfl
  | call k e =>
      obtain ⟨c, c', hc, hcall, hcalls, hslots, hdrain⟩ := step_call_eq_some hstep
      obtain ⟨hcapacity', hmoved⟩ := CallEvent.transfer_eq_some hslots
      have htokens := (Worker.step_tokens (Call.step_eq_some hcall).1).1
      have hcount := countP_set_add (·.worker.holds) c' hc
      refine ⟨hcapacity'.trans hcapacity, ?_⟩
      rw [held, collected] at hinUse
      rw [held, collected, hcalls, hdrain]
      omega
  | await =>
      obtain ⟨hdrain, rfl⟩ := await_eq_some hstep
      refine ⟨hcapacity, ?_⟩
      rw [hinUse, collected, hdrain]
      rfl
  | collect =>
      obtain ⟨n, hdrain, slots, htake, rfl⟩ := collect_eq_some hstep
      obtain ⟨hcapacity', hmoved⟩ := Slots.take?_eq_some htake
      refine ⟨hcapacity'.trans hcapacity, ?_⟩
      rw [collected, hdrain] at hinUse
      exact hmoved.trans (congrArg (· + 1) hinUse)
  | idle =>
      obtain ⟨n, hdrain, -, rfl⟩ := idle_eq_some hstep
      refine ⟨hcapacity, ?_⟩
      rw [hinUse, collected, hdrain]
      rfl
  | giveBack =>
      obtain ⟨n, hdrain, slots, hgive, rfl⟩ := giveBack_eq_some hstep
      obtain ⟨hcapacity', hmoved⟩ := Slots.give?_eq_some hgive
      refine ⟨hcapacity'.trans hcapacity, ?_⟩
      rw [collected, hdrain] at hinUse
      exact Nat.succ.inj (hmoved.trans hinUse)
  | finish =>
      obtain ⟨hdrain, rfl⟩ := finish_eq_some hstep
      refine ⟨hcapacity, ?_⟩
      rw [hinUse, collected, hdrain]
      rfl

/-- Every run keeps the tokens balanced. -/
theorem Balanced.run (h : Balanced limit s) (hrun : s.run es = some s') : Balanced limit s' := by
  induction es generalizing s with
  | nil =>
      cases hrun
      exact h
  | cons e es ih =>
      obtain ⟨t, hstep, hrest⟩ := run_cons_eq_some hrun
      exact ih (h.step hstep) hrest

/-- Who gives tokens back has just got them all, or was giving them back before. -/
theorem returning_of_step {m : Nat} (h : s.step e = some s') (hdrain : s'.drain = .returning m) :
    e = .idle ∨ (∃ n, s.drain = .returning n) ∧ e ≠ .await := by
  cases e with
  | submit patience outputs =>
      cases h
      exact .inr ⟨⟨m, hdrain⟩, nofun⟩
  | call k e =>
      obtain ⟨c, c', -, -, -, -, hsame⟩ := step_call_eq_some h
      exact .inr ⟨⟨m, hsame ▸ hdrain⟩, nofun⟩
  | await =>
      obtain ⟨-, rfl⟩ := await_eq_some h
      cases hdrain
  | finish =>
      obtain ⟨-, rfl⟩ := finish_eq_some h
      cases hdrain
  | collect =>
      obtain ⟨n, -, slots, -, rfl⟩ := collect_eq_some h
      cases hdrain
  | idle => exact .inl rfl
  | giveBack =>
      obtain ⟨n, hbefore, slots, -, rfl⟩ := giveBack_eq_some h
      exact .inr ⟨⟨n + 1, hbefore⟩, nofun⟩

/-- What an event does to the calls: one is made, one changes, or none does. -/
theorem calls_of_step (h : s.step e = some s') :
    (∃ patience outputs, e = .submit patience outputs ∧
        s'.calls = s.calls ++ [.new patience outputs]) ∨
      (∃ k ce c c', e = .call k ce ∧ s.calls[k]? = some c ∧ c.step ce = some c' ∧
        s'.calls = s.calls.set k c') ∨
      ((∀ k ce, e ≠ .call k ce) ∧ s'.calls = s.calls) := by
  cases e with
  | submit patience outputs =>
      cases h
      exact .inl ⟨patience, outputs, rfl, rfl⟩
  | call k e =>
      obtain ⟨c, c', hc, hcall, hcalls, -, -⟩ := step_call_eq_some h
      exact .inr (.inl ⟨k, e, c, c', rfl, hc, hcall, hcalls⟩)
  | await =>
      obtain ⟨-, rfl⟩ := await_eq_some h
      exact .inr (.inr ⟨nofun, rfl⟩)
  | finish =>
      obtain ⟨-, rfl⟩ := finish_eq_some h
      exact .inr (.inr ⟨nofun, rfl⟩)
  | collect =>
      obtain ⟨n, -, slots, -, rfl⟩ := collect_eq_some h
      exact .inr (.inr ⟨nofun, rfl⟩)
  | idle =>
      obtain ⟨n, -, -, rfl⟩ := idle_eq_some h
      exact .inr (.inr ⟨nofun, rfl⟩)
  | giveBack =>
      obtain ⟨n, -, slots, -, rfl⟩ := giveBack_eq_some h
      exact .inr (.inr ⟨nofun, rfl⟩)

/-- Answers are sent last, whatever happens. -/
theorem settled_run (h : ∀ c ∈ s.calls, c.Settled) (hrun : s.run es = some s') :
    ∀ c ∈ s'.calls, c.Settled := by
  induction es generalizing s with
  | nil =>
      cases hrun
      exact h
  | cons e es ih =>
      obtain ⟨t, hstep, hrest⟩ := run_cons_eq_some hrun
      refine ih ?_ hrest
      intro c hc
      rcases calls_of_step hstep with ⟨patience, outputs, -, hcalls⟩ |
        ⟨k, ce, c₀, c₁, -, hc₀, hcall, hcalls⟩ | ⟨-, hcalls⟩
      · rw [hcalls, List.mem_append, List.mem_singleton] at hc
        rcases hc with hc | rfl
        · exact h c hc
        · exact .new patience outputs
      · rcases List.mem_or_eq_of_mem_set (hcalls ▸ hc) with hc | rfl
        · exact h c hc
        · exact (h c₀ (List.mem_of_getElem? hc₀)).step hcall
      · exact h c (hcalls ▸ hc)

/-! ### The tokens of one call -/

/-- Whether there is a call of a number, and its worker is somewhere. -/
def workerAt (s : Pool) (p : Worker → Bool) (k : Nat) : Bool := s.calls[k]?.any (p ·.worker)

theorem workerAt_step (p : Worker → Bool) (given taken : CallEvent → Nat)
    (habsent : p .absent = false)
    (hworker : ∀ {outputs w w' e}, Worker.step outputs w e = some w' →
      (p w').toNat + given e = (p w).toNat + taken e)
    (h : s.step e = some s') (k : Nat) :
    (s'.workerAt p k).toNat + e.moved given k = (s.workerAt p k).toNat + e.moved taken k := by
  -- a call is made, a call changes, or the calls stay as they are
  rcases calls_of_step h with ⟨patience, outputs, rfl, hcalls⟩ |
    ⟨j, ce, c, c', rfl, hc, hcall, hcalls⟩ | ⟨hother, hcalls⟩
  · rw [workerAt, hcalls, List.getElem?_append]
    split
    case isTrue => rfl
    case isFalse hk =>
      have hnone : s.calls[k]? = none := List.getElem?_eq_none (Nat.le_of_not_lt hk)
      -- a new call has no worker yet
      have hnew : ([Call.new patience outputs][k - s.calls.length]?).any (p ·.worker) = false := by
        cases k - s.calls.length with
        | zero => exact habsent
        | succ _ => rfl
      rw [hnew, workerAt, hnone]
      rfl
  · simp only [workerAt, hcalls, PoolEvent.moved]
    by_cases hj : j = k
    · subst hj
      have hlength : j < s.calls.length := (List.getElem?_eq_some_iff.1 hc).1
      rw [List.getElem?_set_self hlength, hc, if_pos rfl, if_pos rfl]
      exact hworker (Call.step_eq_some hcall).1
    · rw [List.getElem?_set_ne hj, if_neg hj, if_neg hj]
  · have hmoved : ∀ f : CallEvent → Nat, e.moved f k = 0 := by
      intro f
      cases e with
      | call j ce => exact absurd rfl (hother j ce)
      | _ => rfl
    rw [hmoved, hmoved, workerAt, hcalls, workerAt]

theorem workerAt_run (p : Worker → Bool) (given taken : CallEvent → Nat)
    (habsent : p .absent = false)
    (hworker : ∀ {outputs w w' e}, Worker.step outputs w e = some w' →
      (p w').toNat + given e = (p w).toNat + taken e)
    (h : s.run es = some s') (k : Nat) :
    (s'.workerAt p k).toNat + PoolEvent.total given k es =
      (s.workerAt p k).toNat + PoolEvent.total taken k es := by
  induction es generalizing s with
  | nil =>
      cases h
      rfl
  | cons e es ih =>
      obtain ⟨t, hstep, hrest⟩ := run_cons_eq_some h
      have hfirst := workerAt_step p given taken habsent hworker hstep k
      have hlater := ih hrest
      rw [PoolEvent.total, PoolEvent.total]
      omega

/-- **A call takes one token, and gives it back once.** -/
theorem count_of_run (h : (start limit).run es = some s) (k : Nat) :
    es.count (.call k .acquire) = (s.workerAt Worker.isBegun k).toNat ∧
      es.count (.call k .drop) + (s.workerAt Worker.holds k).toNat =
        es.count (.call k .acquire) := by
  have hbegun := workerAt_run Worker.isBegun (fun _ => 0) CallEvent.taken rfl
    (fun hstep => (Worker.step_tokens hstep).2) h k
  have hholds := workerAt_run Worker.holds CallEvent.given CallEvent.taken rfl
    (fun hstep => (Worker.step_tokens hstep).1) h k
  have htaken : PoolEvent.total CallEvent.taken k es = es.count (.call k .acquire) :=
    PoolEvent.total_eq_count .acquire k es
  have hgiven : PoolEvent.total CallEvent.given k es = es.count (.call k .drop) :=
    PoolEvent.total_eq_count .drop k es
  rw [PoolEvent.total_zero, htaken] at hbegun
  rw [hgiven, htaken] at hholds
  have hstart : ∀ p, ((start limit).workerAt p k).toNat = 0 := fun _ => rfl
  rw [hstart] at hbegun hholds
  omega

/-- The calls that hold a slot after a run held it before or have taken it since. -/
theorem mem_of_holds {k : Nat} {c : Call} (h : s.run es = some s') (hheld : s.held = 0)
    (hc : s'.calls[k]? = some c) (hholds : c.worker.holds = true) :
    .call k .acquire ∈ es := by
  have hcount := workerAt_run Worker.holds CallEvent.given CallEvent.taken rfl
    (fun hstep => (Worker.step_tokens hstep).1) h k
  have hbefore : s.workerAt Worker.holds k = false := by
    rw [workerAt, Option.any_eq_false]
    intro c₀ hc₀
    have hnone := List.countP_eq_zero.1 hheld c₀ (List.mem_of_getElem? hc₀)
    simpa using hnone
  have hafter : s'.workerAt Worker.holds k = true := by
    rw [workerAt, hc, Option.any_some, hholds]
  have htaken : PoolEvent.total CallEvent.taken k es = es.count (.call k .acquire) :=
    PoolEvent.total_eq_count .acquire k es
  rw [hbefore, hafter, htaken, Bool.toNat_true, Bool.toNat_false] at hcount
  exact List.count_pos_iff.1 (by omega)

/-- A caller who gives up moves no token and stops no device. -/
theorem step_of_giveUp {k : Nat} {e : CallEvent} (he : e = .timeout ∨ e = .refuse)
    (h : s.step (.call k e) = some s') :
    s'.slots = s.slots ∧ s'.held = s.held ∧ s'.executing = s.executing := by
  obtain ⟨c, c', hc, hcall, hcalls, hslots, -⟩ := step_call_eq_some h
  have hworker : c'.worker = c.worker := Worker.step_of_giveUp he (Call.step_eq_some hcall).1
  have hcount : ∀ p : Worker → Bool,
      s'.calls.countP (p ·.worker) = s.calls.countP (p ·.worker) := by
    intro p
    have hset := countP_set_add (p ·.worker) c' hc
    rw [hworker] at hset
    rw [hcalls]
    exact Nat.add_right_cancel hset
  refine ⟨?_, hcount Worker.holds, hcount Worker.isRunning⟩
  rcases he with rfl | rfl
  · exact (Option.some.inj hslots).symm
  · exact (Option.some.inj hslots).symm

theorem executing_le_held (s : Pool) : s.executing ≤ s.held :=
  List.countP_mono_left fun _ _ => Worker.holds_of_isRunning

/-- A run of a sequence is a run of its parts. -/
theorem run_append {es₁ es₂ : List PoolEvent} (h : s.run (es₁ ++ es₂) = some s') :
    ∃ t, s.run es₁ = some t ∧ t.run es₂ = some s' := by
  rw [run, List.foldlM_append] at h
  exact Option.bind_eq_some_iff.1 h

/-- All tokens are collected only when no call holds a slot. -/
theorem Balanced.held_of_idle (h : Balanced limit s) (hstep : s.step .idle = some s') :
    s.held = 0 ∧ s'.held = 0 := by
  obtain ⟨n, hdrain, hall, rfl⟩ := idle_eq_some hstep
  have hinUse := h.inUse
  have hle := s.slots.inUse_le
  rw [collected, hdrain, Drain.tokens, hall] at hinUse
  have hheld : s.held = 0 := by omega
  exact ⟨hheld, hheld⟩

/-- There is room in the channel for every token in use. -/
theorem Balanced.room (h : Balanced limit s) (huse : 0 < s.held + s.collected) :
    s.free < max 1 limit := by
  rw [← h.capacity]
  exact (Slots.free_lt_iff s.slots).2 (by rw [h.inUse]; exact huse)

theorem Balanced.drop_isSome {k : Nat} {c : Call} (h : Balanced limit s)
    (hc : s.calls[k]? = some c) (hleaving : c.worker.isLeaving = true) :
    s.free < max 1 limit ∧ (s.step (.call k .drop)).isSome = true := by
  obtain ⟨c', hcall⟩ := Call.exists_drop hleaving
  have hholds : c.worker.holds = true := by
    have htokens := (Worker.step_tokens (Call.step_eq_some hcall).1).1
    cases hw : c.worker.holds with
    | true => rfl
    | false => simp [hw, CallEvent.given, CallEvent.taken] at htokens
  have hheld : 0 < s.held := List.countP_pos_iff.2 ⟨c, List.mem_of_getElem? hc, hholds⟩
  refine ⟨h.room (by omega), ?_⟩
  obtain ⟨slots, hgive⟩ := Option.isSome_iff_exists.1
    (Slots.give?_isSome (s := s.slots) (by rw [h.inUse]; omega))
  simp [Pool.step, hc, hcall, CallEvent.transfer, hgive]

theorem Balanced.giveBack_isSome {n : Nat} (h : Balanced limit s)
    (hdrain : s.drain = .returning (n + 1)) :
    s.free < max 1 limit ∧ (s.step .giveBack).isSome = true := by
  have hcollected : s.collected = n + 1 := by rw [collected, hdrain, Drain.tokens]
  refine ⟨h.room (by omega), ?_⟩
  obtain ⟨slots, hgive⟩ := Option.isSome_iff_exists.1
    (Slots.give?_isSome (s := s.slots) (by rw [h.inUse]; omega))
  simp [Pool.step, hdrain, hgive]

/-- Who gives tokens back had them all, and has not begun to wait anew. -/
theorem idle_of_returning {n : Nat} (h : s.run es = some s') (hdrain : s'.drain = .returning n) :
    ((∃ m, s.drain = .returning m) ∧ .await ∉ es) ∨
      ∃ es₁ es₂, es = es₁ ++ .idle :: es₂ ∧ .await ∉ es₂ := by
  induction es generalizing s with
  | nil =>
      cases h
      exact .inl ⟨⟨n, hdrain⟩, List.not_mem_nil⟩
  | cons e es ih =>
      obtain ⟨t, hstep, hrest⟩ := run_cons_eq_some h
      rcases ih hrest with ⟨⟨m, hm⟩, hawait⟩ | ⟨es₁, es₂, rfl, hawait⟩
      · rcases returning_of_step hstep hm with rfl | ⟨hs, he⟩
        · exact .inr ⟨[], es, rfl, hawait⟩
        · refine .inl ⟨hs, fun hmem => ?_⟩
          rcases List.mem_cons.1 hmem with heq | hmem
          · exact he heq.symm
          · exact hawait hmem
      · exact .inr ⟨e :: es₁, es₂, rfl, hawait⟩

/-- **The slots under any interleaving.** In every state that a device of some limit reaches:

* the tokens in the channel, those held by calls and those collected are as many as the slots, so the
  device never runs for more calls at once, whether or not their callers have given up;
* a caller who gives up frees nothing;
* a call that took a token gives it back once, and has done so if it holds none;
* whoever is about to give a token back can do so, for there is room in the channel;
* all tokens are collected only when no call holds a slot, and if a call holds one again when they
  have been given back, then it took it in between;
* a caller who has the device's answer has it after the slot was given back. -/
theorem slots_of_run (h : (start limit).run es = some s) :
    s.free + s.held + s.collected = max 1 limit ∧
      s.executing ≤ max 1 limit ∧
      (∀ k e s', e = .timeout ∨ e = .refuse → s.step (.call k e) = some s' →
        s'.slots = s.slots ∧ s'.held = s.held ∧ s'.executing = s.executing) ∧
      (∀ k c, s.calls[k]? = some c → .call k .acquire ∈ es →
        es.count (.call k .acquire) = 1 ∧
          es.count (.call k .drop) = if c.worker.holds then 0 else 1) ∧
      (∀ k c, s.calls[k]? = some c → c.worker.isLeaving = true →
        s.free < max 1 limit ∧ (s.step (.call k .drop)).isSome) ∧
      (∀ n, s.drain = .returning (n + 1) →
        s.free < max 1 limit ∧ (s.step .giveBack).isSome) ∧
      (∀ s', s.step .idle = some s' → s.held = 0 ∧ s'.held = 0) ∧
      (∀ s', s.step .finish = some s' → ∃ es₁ es₂, es = es₁ ++ .idle :: es₂ ∧ .await ∉ es₂ ∧
        ∀ k c, s.calls[k]? = some c → c.worker.holds = true → .call k .acquire ∈ es₂) ∧
      ∀ k c a, s.calls[k]? = some c → c.caller = .answered a →
        c.worker.holds = false ∧ es.count (.call k .drop) = 1 := by
  have hbalanced : Balanced limit s := (Balanced.start limit).run h
  -- what is not in use is in the channel
  have htotal : s.free + s.held + s.collected = max 1 limit := by
    have hinUse := hbalanced.inUse
    have hle := s.slots.inUse_le
    rw [← hbalanced.capacity, free, Slots.free]
    omega
  have hcount : ∀ k c, s.calls[k]? = some c →
      es.count (.call k .acquire) = c.worker.isBegun.toNat ∧
        es.count (.call k .drop) + c.worker.holds.toNat = es.count (.call k .acquire) := by
    intro k c hc
    have hrun := count_of_run h k
    rwa [workerAt, workerAt, hc] at hrun
  refine ⟨htotal, ?_, fun k e s' he hstep => step_of_giveUp he hstep, ?_,
    fun k c hc hleaving => hbalanced.drop_isSome hc hleaving,
    fun n hdrain => hbalanced.giveBack_isSome hdrain,
    fun s' hstep => hbalanced.held_of_idle hstep, ?_, ?_⟩
  · have hrunning := executing_le_held s
    omega
  · intro k c hc hacquire
    obtain ⟨hbegun, hdrops⟩ := hcount k c hc
    have hpos : 0 < es.count (.call k .acquire) := List.count_pos_iff.2 hacquire
    have hle := Bool.toNat_le c.worker.isBegun
    cases hholds : c.worker.holds with
    | true =>
        rw [hholds, Bool.toNat_true] at hdrops
        simp only [if_true]
        omega
    | false =>
        rw [hholds, Bool.toNat_false] at hdrops
        simp only [Bool.false_eq_true, if_false]
        omega
  · intro s' hfinish
    have hdrain := (finish_eq_some hfinish).1
    -- the run goes through a state in which no call held a slot
    rcases idle_of_returning h hdrain with ⟨⟨m, hm⟩, -⟩ | ⟨es₁, es₂, rfl, hawait⟩
    · cases hm
    refine ⟨es₁, es₂, rfl, hawait, fun k c hc hholds => ?_⟩
    obtain ⟨t, hbefore, hrest⟩ := run_append h
    obtain ⟨u, hidle, hafter⟩ := run_cons_eq_some hrest
    have hheld : u.held = 0 := (((Balanced.start limit).run hbefore).held_of_idle hidle).2
    exact mem_of_holds hafter hheld hc hholds
  · intro k c a hc hanswered
    have hsettled : c.Settled :=
      settled_run (s := start limit) (fun _ hmem => by cases hmem) h c (List.mem_of_getElem? hc)
    obtain ⟨hbegun, hdrops⟩ := hcount k c hc
    rw [hsettled.answered a hanswered] at hbegun hdrops ⊢
    exact ⟨rfl, hdrops.trans hbegun⟩

/-- One slot and two calls. The first caller gives up while the device runs; the second call gets the
slot after the device has returned, and somebody waits until it is free again. -/
def overrun : List PoolEvent :=
  [.submit (.ofMillis 50) [], .submit (.ofMillis 50) [], .call 0 .acquire, .call 0 .spawn,
    .call 0 .timeout, .call 0 (.reply (.failure (.driver "too slow"))), .call 0 .drop,
    .call 1 .acquire, .call 0 .send, .call 1 .spawn, .await, .call 1 (.reply (.buffers [])),
    .call 1 .drop, .collect, .idle, .call 1 .send, .call 1 .receive, .giveBack, .finish]

theorem slots_of_run_overrun : ∃ s c, (start 0).run overrun = some s ∧
    s.calls[1]? = some c ∧ c.caller = .answered (.ok []) ∧ c.worker.holds = false ∧
      overrun.count (.call 1 .drop) = 1 ∧ s.free + s.held + s.collected = 1 := by
  have hrun : (start 0).run overrun = some ⟨.ofLimit 0,
      [⟨.ofMillis 50, [], .gaveUp (.timeout (.ofMillis 50)), .ended⟩,
        ⟨.ofMillis 50, [], .answered (.ok []), .ended⟩], .absent⟩ := rfl
  obtain ⟨htotal, -, -, -, -, -, -, -, hanswered⟩ := slots_of_run hrun
  obtain ⟨hholds, hdrops⟩ := hanswered 1 _ _ rfl rfl
  exact ⟨_, _, hrun, rfl, rfl, hholds, hdrops, htotal⟩

/-- Two slots. Somebody has collected both, so the device was idle, and gives them back one after the
other. A call takes the first before they have given back the second. -/
def retaken : List PoolEvent :=
  [.await, .collect, .collect, .idle, .giveBack, .submit (.ofMillis 50) [], .call 0 .acquire,
    .call 0 .spawn, .giveBack]

/-- **Who waits until the device is idle may be done while it runs**: the wait ends when the last slot
is given back, and a call can have taken another one by then. -/
theorem finish_while_held :
    (∃ s, (start 2).run retaken = some s ∧ (s.step .finish).isSome = true ∧ s.held = 1 ∧
      s.executing = 1) ∧
      ¬ ∀ limit es s s', (start limit).run es = some s → s.step .finish = some s' → s.held = 0 := by
  have hrun : (start 2).run retaken = some ⟨⟨2, 1, by decide, by decide⟩,
      [⟨.ofMillis 50, [], .waiting none, .running⟩], .returning 0⟩ := rfl
  exact ⟨⟨_, hrun, rfl, rfl, rfl⟩, fun hnone => absurd (hnone 2 retaken _ _ hrun rfl) (by decide)⟩

/-- A call whose caller has given up still counts. -/
example : (start 1).run [.submit (.ofMillis 50) [], .submit (.ofMillis 50) [], .call 0 .acquire,
    .call 0 .spawn, .call 0 .timeout, .call 1 .acquire] = none := by rfl

end Pool

end Crosscheck
