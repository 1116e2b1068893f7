import Crosscheck.Proofs.Device.Undisturbed
import Crosscheck.Proofs.Run.Points

/-!
# Crosscheck.Proofs.Run.Crew

**A run by several workers, one step at a time.** The templates are taken up one after the other.
Whoever of the crew is free takes the next point of the template at hand, makes the call, and stays
with it until the point has a result; the calls share the slots of the device. When all templates
are done, the crew waits until the device is idle and reports. The events come in any order that
`Crew.step` admits. No deadline passes, and the device replies to a call what it replies.

Whoever has made a call for which no worker can be named breaks down when the worker should start. The
others may go on with the template at hand, but no other template is taken up, and nothing is reported.

`Crew.step` is read through one inversion lemma for each kind of event.
-/

namespace Crosscheck

/-- A point that is to be run. -/
structure Task where
  template : Template
  point : Point

/-- A point on which somebody works, with the number of the call that was made for it. -/
structure Job where
  task : Task
  number : Nat

/-- The state of a run. -/
structure Crew where
  pool : Pool
  /-- What was asked by the calls, in order. -/
  asked : List DeviceCall
  /-- The templates that were not taken up. -/
  ahead : List Template
  /-- The points of the template at hand that nobody has taken. -/
  queue : List Task
  jobs : List Job
  /-- The results, in the order in which they came in. -/
  results : List TestResult
  rejected : List TemplateRejection
  /-- Whether somebody broke down. -/
  brokenDown : Bool
  report : Option Report

/-- What can happen. -/
inductive CrewEvent where
  /-- The next template is taken up. -/
  | enter
  /-- Somebody takes the next point. -/
  | begin
  /-- Something happens to a call on the device's side. -/
  | call (k : Nat) (e : CallEvent)
  /-- Somebody is done with a point. -/
  | conclude (j : Nat) (e : CallEvent)
  /-- Somebody breaks down, because no worker can be named for the call. -/
  | breakDown (j : Nat)
  /-- Something happens to the one who waits until the device is idle. -/
  | drain (e : PoolEvent)

/-- Whether in an event something is taken up that nobody has worked on. -/
def CrewEvent.takes : CrewEvent → Bool
  | enter | begin => true
  | call .. | conclude .. | breakDown _ | drain _ => false

/-- Whether an event concerns the one who waits until the device is idle. -/
def PoolEvent.drains : PoolEvent → Bool
  | await | collect | idle | giveBack | finish => true
  | submit .. | call .. => false

/-- The result of a point when its caller is done. The answer is of no use without an expected
output, so nobody waits for it. -/
def Runner.conclude? (r : Runner) (p : Point) (c : Caller) : Option TestResult :=
  match r.oracle.expectedOutput p, c with
  | .error e, .left => some (.generationFailure p e.message)
  | .error _, _ => none
  | .ok expected, c => c.outcome?.map (r.judge p expected)

namespace Crew

/-- A run at its beginning. -/
def start (limit : Nat) (templates : List Template) : Crew where
  pool := .start limit
  asked := []
  ahead := templates
  queue := []
  jobs := []
  results := []
  rejected := []
  brokenDown := false
  report := none

/-- Whether there is nothing to run any more, and nobody broke down. -/
def isIdle (s : Crew) : Bool :=
  s.ahead.isEmpty && s.queue.isEmpty && s.jobs.isEmpty && !s.brokenDown

/-- Takes up a template. It is skipped if its first selected point has no kernel. -/
def enter (r : Runner) (s : Crew) (t : Template) (ahead : List Template) : Crew :=
  match r.pointsOf t with
  | [] => { s with ahead := ahead }
  | first :: rest =>
    match t.expand first with
    | .error e => { s with ahead := ahead, rejected := s.rejected ++ [⟨t.id, e.message⟩] }
    | .ok _ => { s with ahead := ahead, queue := (first :: rest).map (⟨t, ·⟩) }

/-- The run after an event, with at most `workers` points in work. -/
def step (r : Runner) (workers : Nat) (s : Crew) : CrewEvent → Option Crew
  | .enter =>
    match s.ahead with
    | [] => none
    | t :: ahead =>
      if s.queue.isEmpty && s.jobs.isEmpty && !s.brokenDown then some (s.enter r t ahead) else none
  | .begin =>
    match s.queue with
    | [] => none
    | task :: queue =>
      if s.jobs.length < workers then
        match task.template.expand task.point with
        | .error e =>
          let failure := TestResult.generationFailure task.point e.message
          some { s with queue := queue, results := s.results ++ [failure] }
        | .ok kernel => do
          let pool ← s.pool.step (.submit r.config.timeout [task.point.outputSpec])
          some { s with
            pool := pool
            asked := s.asked ++ [Runner.callOf task.point kernel]
            queue := queue
            jobs := s.jobs ++ [⟨task, s.asked.length⟩] }
      else none
  | .call k e => do
    let call ← s.asked[k]?
    if e.serves (r.device.reply call) && (e != .spawn || call.isNameable) then
      let pool ← s.pool.step (.call k e)
      some { s with pool := pool }
    else none
  | .conclude j e => do
    let job ← s.jobs[j]?
    if e.parts then
      let pool ← s.pool.step (.call job.number e)
      let call ← pool.calls[job.number]?
      let result ← r.conclude? job.task.point call.caller
      some { s with
        pool := pool
        jobs := s.jobs.eraseIdx j
        results := s.results ++ [result] }
    else none
  | .breakDown j => do
    let job ← s.jobs[j]?
    let call ← s.asked[job.number]?
    if call.isNameable then none
    else
      let pool ← s.pool.step (.call job.number (.failSpawn none))
      some { s with pool := pool, jobs := s.jobs.eraseIdx j, brokenDown := true }
  | .drain e =>
    if e.drains && s.isIdle && s.report.isNone then do
      let pool ← s.pool.step e
      let report := Report.ofResults r.config.seed s.results s.rejected
      some { s with pool := pool, report := if e = .finish then some report else none }
    else none

/-- The run after some events. -/
def run (r : Runner) (workers : Nat) (s : Crew) (es : List CrewEvent) : Option Crew :=
  es.foldlM (step r workers) s

variable {r : Runner} {workers : Nat} {s s' : Crew}

theorem isIdle_iff :
    s.isIdle = true ↔ s.ahead = [] ∧ s.queue = [] ∧ s.jobs = [] ∧ s.brokenDown = false := by
  simp only [isIdle, Bool.and_eq_true, List.isEmpty_iff, Bool.not_eq_true', and_assoc]

theorem enter_eq_some (h : s.step r workers .enter = some s') :
    ∃ t ahead, s.ahead = t :: ahead ∧ s.queue = [] ∧ s.jobs = [] ∧ s.brokenDown = false ∧
      s' = s.enter r t ahead := by
  rw [step] at h
  split at h
  case h_1 => cases h
  case h_2 t ahead hahead =>
    split at h
    case isTrue hnone =>
      rw [Bool.and_eq_true, Bool.and_eq_true, List.isEmpty_iff, List.isEmpty_iff,
        Bool.not_eq_true'] at hnone
      exact ⟨t, ahead, hahead, hnone.1.1, hnone.1.2, hnone.2, (Option.some.inj h).symm⟩
    case isFalse => cases h

theorem begin_eq_some (h : s.step r workers .begin = some s') :
    ∃ task queue, s.queue = task :: queue ∧ s.jobs.length < workers ∧
      ((∃ e, task.template.expand task.point = .error e ∧ s' = { s with
          queue := queue
          results := s.results ++ [.generationFailure task.point e.message] }) ∨
      ∃ kernel pool, task.template.expand task.point = .ok kernel ∧
        s.pool.step (.submit r.config.timeout [task.point.outputSpec]) = some pool ∧
        s' = { s with
          pool := pool
          asked := s.asked ++ [Runner.callOf task.point kernel]
          queue := queue
          jobs := s.jobs ++ [⟨task, s.asked.length⟩] }) := by
  rw [step] at h
  split at h
  case h_1 => cases h
  case h_2 task queue hqueue =>
    split at h
    case isFalse => cases h
    case isTrue hfree =>
      refine ⟨task, queue, hqueue, hfree, ?_⟩
      split at h
      case h_1 e hexpand => exact .inl ⟨e, hexpand, (Option.some.inj h).symm⟩
      case h_2 kernel hexpand =>
        obtain ⟨pool, hpool, heq⟩ := Option.bind_eq_some_iff.1 h
        exact .inr ⟨kernel, pool, hexpand, hpool, (Option.some.inj heq).symm⟩

theorem call_eq_some {k : Nat} {e : CallEvent} (h : s.step r workers (.call k e) = some s') :
    ∃ call pool, s.asked[k]? = some call ∧ e.serves (r.device.reply call) = true ∧
      (e = .spawn → call.isNameable = true) ∧ s.pool.step (.call k e) = some pool ∧
      s' = { s with pool := pool } := by
  rw [step] at h
  obtain ⟨call, hcall, h⟩ := Option.bind_eq_some_iff.1 h
  split at h
  case isFalse => cases h
  case isTrue hserves =>
    rw [Bool.and_eq_true, Bool.or_eq_true, bne_iff_ne] at hserves
    obtain ⟨pool, hpool, heq⟩ := Option.bind_eq_some_iff.1 h
    exact ⟨call, pool, hcall, hserves.1, hserves.2.neg_resolve_left, hpool,
      (Option.some.inj heq).symm⟩

theorem conclude_eq_some {j : Nat} {e : CallEvent} (h : s.step r workers (.conclude j e) = some s') :
    ∃ job pool call result, s.jobs[j]? = some job ∧ e.parts = true ∧
      s.pool.step (.call job.number e) = some pool ∧ pool.calls[job.number]? = some call ∧
      r.conclude? job.task.point call.caller = some result ∧
      s' = { s with
        pool := pool
        jobs := s.jobs.eraseIdx j
        results := s.results ++ [result] } := by
  rw [step] at h
  obtain ⟨job, hjob, h⟩ := Option.bind_eq_some_iff.1 h
  split at h
  case isFalse => cases h
  case isTrue hparts =>
    obtain ⟨pool, hpool, h⟩ := Option.bind_eq_some_iff.1 h
    obtain ⟨call, hcall, h⟩ := Option.bind_eq_some_iff.1 h
    obtain ⟨result, hresult, heq⟩ := Option.bind_eq_some_iff.1 h
    exact ⟨job, pool, call, result, hjob, hparts, hpool, hcall, hresult,
      (Option.some.inj heq).symm⟩

theorem breakDown_eq_some {j : Nat} (h : s.step r workers (.breakDown j) = some s') :
    ∃ job call pool, s.jobs[j]? = some job ∧ s.asked[job.number]? = some call ∧
      call.isNameable = false ∧ s.pool.step (.call job.number (.failSpawn none)) = some pool ∧
      s' = { s with pool := pool, jobs := s.jobs.eraseIdx j, brokenDown := true } := by
  rw [step] at h
  obtain ⟨job, hjob, h⟩ := Option.bind_eq_some_iff.1 h
  obtain ⟨call, hcall, h⟩ := Option.bind_eq_some_iff.1 h
  split at h
  case isTrue => cases h
  case isFalse hnameable =>
    obtain ⟨pool, hpool, heq⟩ := Option.bind_eq_some_iff.1 h
    exact ⟨job, call, pool, hjob, hcall, Bool.eq_false_iff.2 hnameable, hpool,
      (Option.some.inj heq).symm⟩

theorem drain_eq_some {e : PoolEvent} (h : s.step r workers (.drain e) = some s') :
    e.drains = true ∧ s.isIdle = true ∧ s.report = none ∧ ∃ pool, s.pool.step e = some pool ∧
      s' = { s with
        pool := pool
        report :=
          if e = .finish then some (Report.ofResults r.config.seed s.results s.rejected)
          else none } := by
  rw [step] at h
  split at h
  case isFalse => cases h
  case isTrue hidle =>
    rw [Bool.and_eq_true, Bool.and_eq_true, Option.isNone_iff_eq_none] at hidle
    obtain ⟨pool, hpool, heq⟩ := Option.bind_eq_some_iff.1 h
    exact ⟨hidle.1.1, hidle.1.2, hidle.2, pool, hpool, (Option.some.inj heq).symm⟩

/-- Only who takes up a template or takes a point changes what is at hand and what was asked, and only
who takes a point gets a job. -/
theorem frame_of_step {e : CrewEvent} (he : e.takes = false) (h : s.step r workers e = some s') :
    s'.ahead = s.ahead ∧ s'.queue = s.queue ∧ s'.asked = s.asked ∧ s'.jobs ⊆ s.jobs := by
  cases e with
  | enter => cases he
  | begin => cases he
  | call k e =>
      obtain ⟨_, _, -, -, -, -, rfl⟩ := call_eq_some h
      exact ⟨rfl, rfl, rfl, List.Subset.refl _⟩
  | conclude j e =>
      obtain ⟨_, _, _, _, -, -, -, -, -, rfl⟩ := conclude_eq_some h
      exact ⟨rfl, rfl, rfl, List.eraseIdx_subset ..⟩
  | breakDown j =>
      obtain ⟨_, _, _, -, -, -, -, rfl⟩ := breakDown_eq_some h
      exact ⟨rfl, rfl, rfl, List.eraseIdx_subset ..⟩
  | drain e =>
      obtain ⟨-, -, -, _, -, rfl⟩ := drain_eq_some h
      exact ⟨rfl, rfl, rfl, List.Subset.refl _⟩

theorem run_cons_eq_some {e : CrewEvent} {es : List CrewEvent}
    (h : s.run r workers (e :: es) = some s') :
    ∃ t, s.step r workers e = some t ∧ t.run r workers es = some s' := by
  rw [run, List.foldlM_cons] at h
  exact Option.bind_eq_some_iff.1 h

end Crew

end Crosscheck
