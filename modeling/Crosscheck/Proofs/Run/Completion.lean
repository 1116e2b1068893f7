import Crosscheck.Proofs.Run.Crew
import Mathlib.Data.List.Perm.Basic

/-!
# Crosscheck.Proofs.Run.Completion

**A run by several workers ends, and its report does not depend on the order of events.** The results
that have come in, those that are still due and those that were lost with somebody who broke down are
together those of the templates taken up so far (`Crew.Sound.step`). As long as there is no report and
nobody broke down, something can happen (`Crew.Sound.exists_step`), and whatever happens leaves less
work (`Crew.Sound.work_lt`).
-/

namespace Crosscheck

/-- The result that a task has to get. -/
def Task.resultBy (r : Runner) (task : Task) : TestResult := r.runPoint task.template task.point

/-! ### Points in work -/

namespace Job

/-- The point has a kernel, its call was made, and the caller is still there. -/
structure InWork (r : Runner) (asked : List DeviceCall) (pool : Pool) (job : Job) : Prop where
  asked : ∃ kernel, job.task.template.expand job.task.point = .ok kernel ∧
    asked[job.number]? = some (Runner.callOf job.task.point kernel)
  present : ∃ call, pool.calls[job.number]? = some call ∧ call.caller.isOpen = true

variable {r : Runner} {asked : List DeviceCall} {pool pool' : Pool} {job : Job}

theorem InWork.submit {patience : Duration} {outputs : List BufferSpec} (call : DeviceCall)
    (h : job.InWork r asked pool) (hstep : pool.step (.submit patience outputs) = some pool') :
    job.InWork r (asked ++ [call]) pool' := by
  obtain ⟨⟨kernel, hexpand, hasked⟩, c, hc, hopen⟩ := h
  cases hstep
  refine ⟨⟨kernel, hexpand, ?_⟩, c, ?_, hopen⟩
  · rw [List.getElem?_append_left (List.getElem?_eq_some_iff.1 hasked).1, hasked]
  · rw [List.getElem?_append_left (List.getElem?_eq_some_iff.1 hc).1, hc]

/-- A call that begins. -/
theorem InWork.new {patience : Duration} {task : Task} {kernel : Kernel}
    (hlength : asked.length = pool.calls.length)
    (hexpand : task.template.expand task.point = .ok kernel)
    (hstep : pool.step (.submit patience [task.point.outputSpec]) = some pool') :
    (Job.mk task asked.length).InWork r (asked ++ [Runner.callOf task.point kernel]) pool' := by
  cases hstep
  refine ⟨⟨kernel, hexpand, ?_⟩, .new patience [task.point.outputSpec], ?_, rfl⟩
  · exact List.getElem?_concat_length
  · rw [hlength]
    exact List.getElem?_concat_length

/-- What happens to a call concerns no job but its own, and that only if the caller goes away. -/
theorem InWork.step_call {k : Nat} {e : CallEvent} (h : job.InWork r asked pool)
    (hstep : pool.step (.call k e) = some pool')
    (hopen : job.number = k → ∀ c c', pool.calls[k]? = some c → c.step e = some c' →
      c'.caller.isOpen = c.caller.isOpen) : job.InWork r asked pool' := by
  obtain ⟨hasked, c, hc, hpresent⟩ := h
  obtain ⟨c₀, c₁, hc₀, hcall, hcalls, -, -⟩ := Pool.step_call_eq_some hstep
  refine ⟨hasked, ?_⟩
  rw [hcalls]
  by_cases hk : job.number = k
  · refine ⟨c₁, ?_, ?_⟩
    · rw [hk, List.getElem?_set_self (List.getElem?_eq_some_iff.1 hc₀).1]
    · obtain rfl : c = c₀ := Option.some.inj (hc.symm.trans (hk ▸ hc₀))
      rw [hopen hk c c₁ hc₀ hcall, hpresent]
  · exact ⟨c, by rw [List.getElem?_set_ne (Ne.symm hk), hc], hpresent⟩

end Job

/-- A call does not concern the one who waits until the device is idle. -/
theorem Pool.drain_of_step_call {s s' : Pool} {k : Nat} {e : CallEvent}
    (h : s.step (.call k e) = some s') : s'.drain = s.drain := by
  obtain ⟨c, c', -, -, -, -, hdrain⟩ := step_call_eq_some h
  exact hdrain

/-- Nor does the one who waits concern the calls. -/
theorem Pool.calls_of_drains {s s' : Pool} {e : PoolEvent} (he : e.drains = true)
    (h : s.step e = some s') : s'.calls = s.calls := by
  rcases calls_of_step h with ⟨_, _, rfl, -⟩ | ⟨_, _, _, _, rfl, -⟩ | ⟨-, hcalls⟩
  · cases he
  · cases he
  · exact hcalls

/-- Who waits for a slot and the start of the worker did so before, and is not the one who is done or
breaks down. -/
theorem Caller.eq_submitting_of_step {patience : Duration} {w : Worker} {c : Caller} {e : CallEvent}
    (h : c.step patience w e = some .submitting) :
    c = .submitting ∧ e.parts = false ∧ e ≠ .failSpawn none := by
  rw [step.eq_def] at h
  split at h
  case h_10 =>
    split at h
    · cases h
    · exact ⟨Option.some.inj h, rfl, by simp⟩
  case h_11 =>
    split at h
    · cases h
    · exact ⟨Option.some.inj h, rfl, by simp⟩
  all_goals first | cases h; done | exact ⟨Option.some.inj h, rfl, by simp⟩

/-- Everybody who waits for the start of a worker is on the job. -/
def Pool.Manned (numbers : List Nat) (s : Pool) : Prop :=
  ∀ (k : Nat) (c : Call), s.calls[k]? = some c → c.caller = .submitting → k ∈ numbers

namespace Pool.Manned

variable {numbers numbers' : List Nat} {s s' : Pool}

theorem submit {patience : Duration} {outputs : List BufferSpec} (h : s.Manned numbers)
    (hstep : s.step (.submit patience outputs) = some s') :
    s'.Manned (numbers ++ [s.calls.length]) := by
  cases hstep
  intro k c hc hcaller
  rw [List.getElem?_append] at hc
  split at hc
  case isTrue => exact List.mem_append_left _ (h k c hc hcaller)
  case isFalse hk =>
    -- the only number that is not below those of the earlier calls
    have hlast : k - s.calls.length = 0 :=
      Nat.lt_one_iff.1 (List.getElem?_eq_some_iff.1 hc).1
    have heq : k = s.calls.length := by omega
    exact List.mem_append_right _ (List.mem_singleton.2 heq)

/-- Whoever is done with a call, or breaks down, may go. -/
theorem step_call {k : Nat} {e : CallEvent} (h : s.Manned numbers)
    (hstep : s.step (.call k e) = some s')
    (hstay : ∀ n ∈ numbers, n ∈ numbers' ∨ n = k ∧ (e.parts = true ∨ e = .failSpawn none)) :
    s'.Manned numbers' := by
  obtain ⟨c, c', hc, hcstep, hcalls, -, -⟩ := step_call_eq_some hstep
  intro j c₁ hc₁ hcaller
  rw [hcalls] at hc₁
  by_cases hj : k = j
  · subst hj
    rw [List.getElem?_set_self (List.getElem?_eq_some_iff.1 hc).1] at hc₁
    obtain rfl := Option.some.inj hc₁
    obtain ⟨hbefore, hparts, hbreak⟩ :=
      Caller.eq_submitting_of_step (hcaller ▸ (Call.step_eq_some hcstep).2)
    rcases hstay k (h k c hc hbefore) with hmem | ⟨-, hgone | hgone⟩
    · exact hmem
    · rw [hparts] at hgone
      cases hgone
    · exact absurd hgone hbreak
  · rw [List.getElem?_set_ne hj] at hc₁
    exact (hstay j (h j c₁ hc₁ hcaller)).resolve_right fun heq => hj heq.1.symm

end Pool.Manned

/-! ### The crew and the calls

What is true of those who work on points and of the calls that they have made. -/

/-- Everybody has made a call, which goes undisturbed, and nobody else waits for the start of a
worker. -/
structure Staffed (r : Runner) (limit : Nat) (asked : List DeviceCall) (pool : Pool)
    (jobs : List Job) : Prop where
  /-- Nothing disturbs the calls. -/
  undisturbed : pool.Undisturbed r.device limit asked
  /-- No worker is started for which there is no name. -/
  unstarted : pool.Unstarted asked
  /-- Every job is in work. -/
  works : ∀ job ∈ jobs, job.InWork r asked pool
  /-- Every job has a call of its own. -/
  distinct : (jobs.map (·.number)).Nodup
  /-- Who waits for the start of a worker has a job. -/
  manned : pool.Manned (jobs.map (·.number))

/-- Taking out a job leaves the others. -/
theorem perm_eraseIdx {jobs : List Job} {j : Nat} {job : Job} (h : jobs[j]? = some job) :
    (job :: jobs.eraseIdx j).Perm jobs := by
  obtain ⟨hj, rfl⟩ := List.getElem?_eq_some_iff.1 h
  exact List.getElem_cons_eraseIdx_perm hj

namespace Staffed

variable {r : Runner} {limit : Nat} {asked : List DeviceCall} {pool pool' : Pool} {jobs : List Job}

theorem start (r : Runner) (limit : Nat) : Staffed r limit [] (.start limit) [] where
  undisturbed := .start r.device limit
  unstarted k call c hcall := by cases hcall
  works job hjob := by cases hjob
  distinct := List.nodup_nil
  manned k c hc := by cases hc

/-- Somebody makes a call for the next point. -/
theorem begin {task : Task} {kernel : Kernel} (h : Staffed r limit asked pool jobs)
    (hexpand : task.template.expand task.point = .ok kernel)
    (hstep : pool.step (.submit r.config.timeout [task.point.outputSpec]) = some pool') :
    Staffed r limit (asked ++ [Runner.callOf task.point kernel]) pool'
      (jobs ++ [⟨task, asked.length⟩]) where
  undisturbed := h.undisturbed.submit (Runner.callOf task.point kernel) hstep
  unstarted := h.unstarted.submit h.undisturbed.length _ hstep
  works job hjob := by
    rcases List.mem_append.1 hjob with hjob | hjob
    · exact (h.works job hjob).submit _ hstep
    · obtain rfl := List.mem_singleton.1 hjob
      exact .new h.undisturbed.length hexpand hstep
  distinct := by
    -- the number is greater than those of all calls so far
    rw [List.map_append, List.nodup_append]
    refine ⟨h.distinct, List.pairwise_singleton _ _, ?_⟩
    intro number hnumber other hother
    obtain ⟨job, hjob, rfl⟩ := List.mem_map.1 hnumber
    obtain rfl := List.mem_singleton.1 hother
    obtain ⟨⟨kernel, -, hasked⟩, -⟩ := h.works job hjob
    exact Nat.ne_of_lt (List.getElem?_eq_some_iff.1 hasked).1
  manned := by
    have hmanned := h.manned.submit hstep
    rw [← h.undisturbed.length] at hmanned
    rwa [List.map_append]

/-- The device's part in a call goes on. -/
theorem serve {k : Nat} {e : CallEvent} {call : DeviceCall} (h : Staffed r limit asked pool jobs)
    (hcall : asked[k]? = some call) (hserves : e.serves (r.device.reply call) = true)
    (hspawn : e = .spawn → call.isNameable = true) (hstep : pool.step (.call k e) = some pool') :
    Staffed r limit asked pool' jobs where
  undisturbed := h.undisturbed.step_call hcall (.inl hserves) hstep
  unstarted := h.unstarted.step_call (r.device.reply call) hcall (.inl ⟨hserves, hspawn⟩) hstep
  works job hjob := by
    refine (h.works job hjob).step_call hstep fun _ c c' hc hcstep => ?_
    obtain ⟨houtputs, hagrees⟩ := h.undisturbed.agrees k call c hcall hc
    obtain ⟨hworker, hcaller⟩ := Call.step_eq_some hcstep
    exact (hagrees.serve (.of_step hserves (houtputs ▸ hworker)) hcaller).2
  distinct := h.distinct
  manned := h.manned.step_call hstep fun _ hn => .inl hn

/-- Somebody is done with a job, or breaks down. -/
theorem dismiss {j : Nat} {job : Job} {e : CallEvent} (h : Staffed r limit asked pool jobs)
    (hjob : jobs[j]? = some job) (he : e.parts = true ∨ e = .failSpawn none)
    (hstep : pool.step (.call job.number e) = some pool') :
    Staffed r limit asked pool' (jobs.eraseIdx j) := by
  obtain ⟨⟨kernel, hexpand, hasked⟩, -⟩ := h.works job (List.mem_of_getElem? hjob)
  have hperm := perm_eraseIdx hjob
  have hnumbers := (hperm.map (·.number)).nodup_iff.2 h.distinct
  rw [List.map_cons, List.nodup_cons] at hnumbers
  refine ⟨h.undisturbed.step_call hasked (.inr he) hstep,
    h.unstarted.step_call .breakdown hasked (.inr he) hstep, fun other hother => ?_,
    hnumbers.2, h.manned.step_call hstep fun n hn => ?_⟩
  · refine (h.works other ((List.eraseIdx_subset ..) hother)).step_call hstep fun heq => ?_
    exact absurd (heq ▸ List.mem_map_of_mem hother) hnumbers.1
  · have hmem := (hperm.map (·.number)).mem_iff.2 hn
    rw [List.map_cons, List.mem_cons] at hmem
    exact hmem.symm.imp_right fun heq => ⟨heq, he⟩

/-- Waiting until the device is idle does not concern the crew. -/
theorem drain {e : PoolEvent} (h : Staffed r limit asked pool jobs) (he : e.drains = true)
    (hstep : pool.step e = some pool') : Staffed r limit asked pool' jobs := by
  have hcalls := Pool.calls_of_drains he hstep
  refine ⟨h.undisturbed.of_calls_eq hstep hcalls, fun k call c hcall hc => ?_, fun job hjob => ?_,
    h.distinct, fun k c hc => ?_⟩
  · exact h.unstarted k call c hcall (hcalls ▸ hc)
  · obtain ⟨hasked, hpresent⟩ := h.works job hjob
    exact ⟨hasked, hcalls ▸ hpresent⟩
  · exact h.manned k c (hcalls ▸ hc)

end Staffed

namespace Crew

/-- The tasks that have no result yet. -/
def due (s : Crew) : List Task := s.jobs.map (·.task) ++ s.queue

/-- What has come in, what is due and what was lost make up the templates that were taken up. -/
structure Accounted (r : Runner) (s : Crew) (done : List Template) (lost : List Task) : Prop where
  rejected : s.rejected = (done.map r.runTemplate).flatMap (·.rejectionList)
  results : (s.results ++ (s.due ++ lost).map (·.resultBy r)).Perm
    ((done.map r.runTemplate).flatMap (·.resultList))
  /-- What is lost was lost with somebody who broke down. -/
  lost : s.brokenDown = false → lost = []

/-- What is true of a run at any time. -/
structure Sound (r : Runner) (limit : Nat) (templates : List Template) (s : Crew) : Prop where
  /-- Everybody works on a call of their own. -/
  staffed : Staffed r limit s.asked s.pool s.jobs
  /-- Slots are collected when there is nothing to run any more. -/
  idle : s.pool.drain ≠ .absent → s.isIdle = true
  /-- Unless somebody breaks down, no result is lost, and none is made up. -/
  accounted : ∃ done lost, templates = done ++ s.ahead ∧ s.Accounted r done lost
  /-- The report is made when there is nothing to run any more. -/
  reported : ∀ report, s.report = some report →
    s.isIdle = true ∧ report = Report.ofResults r.config.seed s.results s.rejected

variable {r : Runner} {workers limit : Nat} {templates : List Template} {s s' : Crew}

theorem Sound.start (r : Runner) (limit : Nat) (templates : List Template) :
    (start limit templates).Sound r limit templates where
  staffed := .start r limit
  idle h := absurd rfl h
  accounted := ⟨[], [], rfl, rfl, List.Perm.nil, fun _ => rfl⟩
  reported report h := by cases h

theorem isIdle_eq_false {job : Job} (h : job ∈ s.jobs) : s.isIdle = false := by
  rw [Bool.eq_false_iff, ne_eq, isIdle_iff]
  rintro ⟨-, -, hjobs, -⟩
  rw [hjobs] at h
  cases h

/-- Whoever works on something is not waiting until the device is idle. -/
theorem Sound.drain_absent (h : s.Sound r limit templates) (hidle : s.isIdle = false) :
    s.pool.drain = .absent := by
  by_cases hdrain : s.pool.drain = .absent
  · exact hdrain
  · rw [h.idle hdrain] at hidle
    cases hidle

theorem Sound.report_none (h : s.Sound r limit templates) (hidle : s.isIdle = false) :
    s.report = none := by
  cases hreport : s.report with
  | none => rfl
  | some report =>
      rw [(h.reported report hreport).1] at hidle
      cases hidle

/-- Whoever leaves takes the task along. -/
theorem due_perm_eraseIdx {j : Nat} {job : Job} (h : s.jobs[j]? = some job) :
    (job.task :: ((s.jobs.eraseIdx j).map (·.task) ++ s.queue)).Perm s.due :=
  ((perm_eraseIdx h).map Job.task).append_right s.queue

/-- Taking up a template makes its points due. -/
theorem enter_eq (r : Runner) (t : Template) (ahead : List Template) (hqueue : s.queue = []) :
    ∃ tasks, tasks.map (·.resultBy r) = (r.runTemplate t).resultList ∧
      s.enter r t ahead = { s with
        ahead := ahead
        queue := tasks
        rejected := s.rejected ++ (r.runTemplate t).rejectionList } := by
  rw [enter, r.runTemplate_eq]
  cases r.pointsOf t with
  | nil => exact ⟨[], rfl, by simp [Runner.TemplateOutcome.rejectionList, ← hqueue]⟩
  | cons first rest =>
      dsimp only
      cases t.expand first with
      | error e => exact ⟨[], rfl, by simp [Runner.TemplateOutcome.rejectionList, ← hqueue]⟩
      | ok kernel =>
          refine ⟨(first :: rest).map (⟨t, ·⟩), ?_, ?_⟩
          · rw [List.map_map]
            rfl
          · simp [Runner.TemplateOutcome.rejectionList]

/-! ### Every event keeps the run sound

One lemma for each kind of event. As long as there is something to run, nobody can be waiting for the
device yet. -/

theorem Sound.enter (h : s.Sound r limit templates) (hstep : s.step r workers .enter = some s') :
    s'.Sound r limit templates := by
  obtain ⟨t, ahead, hahead, hqueue, hjobs, hbroken, rfl⟩ := enter_eq_some hstep
  have hbusy : s.isIdle = false := by simp [isIdle, hahead]
  have hdrain := h.drain_absent hbusy
  have hreport := h.report_none hbusy
  obtain ⟨done, lost, htemplates, hrejected, hresults, hlost⟩ := h.accounted
  obtain rfl := hlost hbroken
  obtain ⟨tasks, htasks, henter⟩ := s.enter_eq r t ahead hqueue
  rw [henter]
  refine ⟨h.staffed, fun hd => absurd hdrain hd, ⟨done ++ [t], [], ?_, ?_, ?_, hlost⟩,
    fun report hr => ?_⟩
  · rw [htemplates, hahead, List.append_assoc, List.singleton_append]
  · simp [hrejected]
  · -- nothing was due before, and now it is the points of the template
    rw [due, hjobs, hqueue] at hresults
    simp only [due, hjobs, List.map_nil, List.nil_append, List.append_nil] at hresults ⊢
    rw [htasks, List.map_append, List.flatMap_append]
    simpa using hresults.append_right (r.runTemplate t).resultList
  · rw [hreport] at hr
    cases hr

theorem Sound.begin (h : s.Sound r limit templates) (hstep : s.step r workers .begin = some s') :
    s'.Sound r limit templates := by
  obtain ⟨task, queue, hqueue, -, hcases⟩ := begin_eq_some hstep
  have hbusy : s.isIdle = false := by simp [isIdle, hqueue]
  have hdrain := h.drain_absent hbusy
  have hreport := h.report_none hbusy
  obtain ⟨done, lost, htemplates, hrejected, hresults, hlost⟩ := h.accounted
  rcases hcases with ⟨e, hexpand, rfl⟩ | ⟨kernel, pool, hexpand, hpool, rfl⟩
  · -- the point has no kernel, and that is its result
    have hresult : task.resultBy r = .generationFailure task.point e.message :=
      Runner.runPoint_of_error hexpand
    refine ⟨h.staffed, fun hd => absurd hdrain hd,
      ⟨done, lost, htemplates, hrejected, List.Perm.trans ?_ hresults, hlost⟩, fun report hr => ?_⟩
    · simp only [due, hqueue, List.map_append, List.map_cons, ← hresult, List.append_assoc,
        List.singleton_append]
      exact (List.perm_middle.symm).append_left _
    · rw [hreport] at hr
      cases hr
  · refine ⟨h.staffed.begin hexpand hpool, ?_, ⟨done, lost, htemplates, hrejected, ?_, hlost⟩,
      fun report hr => ?_⟩
    · cases hpool
      exact fun hd => absurd hdrain hd
    · rw [due, hqueue] at hresults
      simpa only [due, List.map_append, List.map_cons, List.map_nil, List.append_assoc,
        List.singleton_append] using hresults
    · rw [hreport] at hr
      cases hr

/-- The device's part in a call changes nothing but the call. -/
theorem Sound.call {k : Nat} {e : CallEvent} (h : s.Sound r limit templates)
    (hstep : s.step r workers (.call k e) = some s') : s'.Sound r limit templates := by
  obtain ⟨call, pool, hcall, hserves, hspawn, hpool, rfl⟩ := call_eq_some hstep
  have hdrain := Pool.drain_of_step_call hpool
  obtain ⟨done, lost, htemplates, hrejected, hresults, hlost⟩ := h.accounted
  exact ⟨h.staffed.serve hcall hserves hspawn hpool, fun hd => h.idle (hdrain ▸ hd),
    ⟨done, lost, htemplates, hrejected, hresults, hlost⟩, h.reported⟩

/-- **Whoever is done with a point has the result that it has to get.** -/
theorem conclude?_eq_some {p : Point} {t : Template} {kernel : Kernel} {w : Worker} {c : Caller}
    {result : TestResult} (htime : r.config.timeout.isZero = false)
    (hexpand : t.expand p = .ok kernel)
    (hagrees : Call.Agrees ((r.device.reply (Runner.callOf p kernel)).answer?
      (Runner.callOf p kernel).outputs) w c)
    (h : r.conclude? p c = some result) : result = r.runPoint t p := by
  rw [Runner.conclude?.eq_def] at h
  split at h
  case h_1 e horacle =>
    cases h
    exact (Runner.runPoint_of_oracle_error hexpand horacle).symm
  case h_2 => cases h
  case h_3 expected horacle =>
    obtain ⟨outcome, houtcome, rfl⟩ := Option.map_eq_some_iff.1 h
    rw [Runner.runPoint_of_ok hexpand horacle, Runner.execute, if_neg (by simp [htime]),
      Device.submit_eq, hagrees.eq_of_outcome houtcome]

theorem Sound.conclude {j : Nat} {e : CallEvent} (htime : r.config.timeout.isZero = false)
    (h : s.Sound r limit templates) (hstep : s.step r workers (.conclude j e) = some s') :
    s'.Sound r limit templates := by
  obtain ⟨job, pool, call, result, hjob, hparts, hpool, hcall, hresult, rfl⟩ :=
    conclude_eq_some hstep
  have hmem : job ∈ s.jobs := List.mem_of_getElem? hjob
  have hbusy := isIdle_eq_false hmem
  have hdrain := Pool.drain_of_step_call hpool
  have hreport := h.report_none hbusy
  have hstaffed := h.staffed.dismiss hjob (.inl hparts) hpool
  obtain ⟨done, lost, htemplates, hrejected, hresults, hlost⟩ := h.accounted
  refine ⟨hstaffed, fun hd => ?_,
    ⟨done, lost, htemplates, hrejected, List.Perm.trans ?_ hresults, hlost⟩, fun report hr => ?_⟩
  · exact absurd (hdrain.trans (h.drain_absent hbusy)) hd
  · obtain ⟨⟨kernel, hexpand, hasked⟩, -⟩ := h.staffed.works job hmem
    have hdue : result = job.task.resultBy r :=
      conclude?_eq_some htime hexpand
        (hstaffed.undisturbed.agrees job.number _ call hasked hcall).2 hresult
    rw [hdue, List.append_assoc]
    refine List.Perm.append_left _ ?_
    exact ((due_perm_eraseIdx hjob).append_right lost).map (·.resultBy r)
  · rw [hreport] at hr
    cases hr

theorem Sound.breakDown {j : Nat} (h : s.Sound r limit templates)
    (hstep : s.step r workers (.breakDown j) = some s') : s'.Sound r limit templates := by
  obtain ⟨job, call, pool, hjob, -, -, hpool, rfl⟩ := breakDown_eq_some hstep
  have hbusy := isIdle_eq_false (List.mem_of_getElem? hjob)
  have hdrain := Pool.drain_of_step_call hpool
  have hreport := h.report_none hbusy
  obtain ⟨done, lost, htemplates, hrejected, hresults, -⟩ := h.accounted
  refine ⟨h.staffed.dismiss hjob (.inr rfl) hpool, fun hd => ?_,
    ⟨done, job.task :: lost, htemplates, hrejected, List.Perm.trans ?_ hresults, nofun⟩,
    fun report hr => ?_⟩
  · exact absurd (hdrain.trans (h.drain_absent hbusy)) hd
  · refine List.Perm.append_left _ ?_
    exact (List.perm_middle.trans ((due_perm_eraseIdx hjob).append_right lost)).map (·.resultBy r)
  · rw [hreport] at hr
    cases hr

theorem Sound.drain {e : PoolEvent} (h : s.Sound r limit templates)
    (hstep : s.step r workers (.drain e) = some s') : s'.Sound r limit templates := by
  obtain ⟨hdrains, hidle, -, pool, hpool, rfl⟩ := drain_eq_some hstep
  obtain ⟨done, lost, htemplates, hrejected, hresults, hlost⟩ := h.accounted
  refine ⟨h.staffed.drain hdrains hpool, fun _ => hidle,
    ⟨done, lost, htemplates, hrejected, hresults, hlost⟩, fun report hr => ⟨hidle, ?_⟩⟩
  dsimp only at hr
  split at hr
  · exact (Option.some.inj hr).symm
  · cases hr

/-- **Every event keeps the run sound.** -/
theorem Sound.step {e : CrewEvent} (htime : r.config.timeout.isZero = false)
    (h : s.Sound r limit templates) (hstep : s.step r workers e = some s') :
    s'.Sound r limit templates := by
  cases e with
  | enter => exact h.enter hstep
  | begin => exact h.begin hstep
  | call k e => exact h.call hstep
  | conclude j e => exact h.conclude htime hstep
  | breakDown j => exact h.breakDown hstep
  | drain e => exact h.drain hstep

theorem Sound.run {es : List CrewEvent} (htime : r.config.timeout.isZero = false)
    (h : s.Sound r limit templates) (hrun : s.run r workers es = some s') :
    s'.Sound r limit templates := by
  induction es generalizing s with
  | nil =>
      cases hrun
      exact h
  | cons e es ih =>
      obtain ⟨t, hstep, hrest⟩ := run_cons_eq_some hrun
      exact ih (h.step htime hstep) hrest

/-! ### Something can happen until there is a report -/

/-- Where the device's part in a call can go on, it does, or somebody breaks down. -/
theorem Sound.exists_step_of_canServe (workers : Nat) (h : s.Sound r limit templates)
    (hserve : s.pool.CanServe r.device s.asked) : ∃ e, (s.step r workers e).isSome = true := by
  obtain ⟨k, call, e, hcall, hserves, hpool⟩ := hserve
  obtain ⟨pool, hpool⟩ := Option.isSome_iff_exists.1 hpool
  by_cases hspawn : e = .spawn ∧ call.isNameable = false
  · obtain ⟨rfl, hnameable⟩ := hspawn
    obtain ⟨c, c', hc, hcstep, -, -, -⟩ := Pool.step_call_eq_some hpool
    obtain ⟨hstarting, hsubmitting⟩ := Call.starting_of_step_spawn hcstep
    -- the caller waits for the worker, so it has a job
    obtain ⟨job, hjob, rfl⟩ := List.mem_map.1 (h.staffed.manned k c hc hsubmitting)
    obtain ⟨j, hj⟩ := List.getElem?_of_mem hjob
    have hstep : c.step (.failSpawn none) =
        some { c with caller := .left, worker := .stillborn none } := by
      rw [Call.step, hstarting, hsubmitting]
      rfl
    refine ⟨.breakDown j, ?_⟩
    simp [Crew.step, hj, hcall, hnameable, Pool.step, hc, hstep, CallEvent.transfer]
  · refine ⟨.call k e, ?_⟩
    have hstart : e ≠ .spawn ∨ call.isNameable = true := by
      rw [not_and_or, Bool.not_eq_false] at hspawn
      exact hspawn
    simp [Crew.step, hcall, hserves, hstart, hpool]

/-- A drain event that is possible in the pool is possible for an idle crew. -/
theorem drain_isSome {e : PoolEvent} (workers : Nat) (he : e.drains = true) (hidle : s.isIdle = true)
    (hreport : s.report = none) (hpool : (s.pool.step e).isSome = true) :
    (s.step r workers (.drain e)).isSome = true := by
  obtain ⟨pool, hpool⟩ := Option.isSome_iff_exists.1 hpool
  simp [Crew.step, he, hidle, hreport, hpool]

/-- When the worker of a job's call has ended, the job can be concluded by an event after which its
caller has what it takes. -/
theorem conclude_isSome {j : Nat} {job : Job} {c : Call} {caller : Caller} {e : CallEvent}
    {result : TestResult} (workers : Nat) (hj : s.jobs[j]? = some job)
    (hc : s.pool.calls[job.number]? = some c) (hended : c.worker = .ended)
    (he : e = .leave ∨ e = .receive ∨ e = .notice)
    (hcaller : c.caller.step c.patience .ended e = some caller)
    (hresult : r.conclude? job.task.point caller = some result) :
    (s.step r workers (.conclude j e)).isSome = true := by
  have hstep : c.step e = some { c with caller := caller } := by
    rw [Call.step, hended, hcaller]
    rcases he with rfl | rfl | rfl <;> simp [Worker.step, Worker.isGone, ← hended]
  have hpool : s.pool.step (.call job.number e) = some { s.pool with
      calls := s.pool.calls.set job.number { c with caller := caller } } := by
    rcases he with rfl | rfl | rfl <;> simp [Pool.step, hc, hstep, CallEvent.transfer]
  have hparts : e.parts = true := by rcases he with rfl | rfl | rfl <;> rfl
  have hset := List.getElem?_set_self (a := { c with caller := caller })
    (List.getElem?_eq_some_iff.1 hc).1
  simp [Crew.step, hj, hparts, hpool, hset, hresult]

/-- Whoever works on a point is done with it, or the calls go on. -/
theorem Sound.exists_step_of_job {job : Job} (workers : Nat) (h : s.Sound r limit templates)
    (hjob : job ∈ s.jobs) : ∃ e, (s.step r workers e).isSome = true := by
  obtain ⟨⟨kernel, -, hasked⟩, c, hc, hopen⟩ := h.staffed.works job hjob
  have hdrain := h.drain_absent (isIdle_eq_false hjob)
  by_cases hended : c.worker = .ended
  · obtain ⟨j, hj⟩ := List.getElem?_of_mem hjob
    obtain ⟨houtputs, hagrees⟩ := h.staffed.undisturbed.agrees _ _ c hasked hc
    rw [hended] at hagrees
    obtain ⟨hleave, e, c', outcome, he, hcaller, houtcome⟩ :=
      hagrees.exists_part c.patience hopen
    -- the caller leaves if nothing is expected, and learns what there is to know otherwise
    cases horacle : r.oracle.expectedOutput job.task.point with
    | error err =>
        have hresult : r.conclude? job.task.point .left =
            some (.generationFailure job.task.point err.message) := by
          simp only [Runner.conclude?, horacle]
        exact ⟨.conclude j .leave,
          conclude_isSome workers hj hc hended (.inl rfl) hleave hresult⟩
    | ok expected =>
        have hresult : r.conclude? job.task.point c' =
            some (r.judge job.task.point expected outcome) := by
          simp only [Runner.conclude?, horacle, houtcome, Option.map_some]
        exact ⟨.conclude j e, conclude_isSome workers hj hc hended (.inr he) hcaller hresult⟩
  · exact h.exists_step_of_canServe workers (h.staffed.undisturbed.canServe hdrain hc hended)

theorem Sound.exists_step_of_idle (workers : Nat) (h : s.Sound r limit templates)
    (hidle : s.isIdle = true) (hreport : s.report = none) :
    ∃ e, (s.step r workers e).isSome = true := by
  have hbalanced := h.staffed.undisturbed.balanced
  have hdrains := fun e he => drain_isSome (r := r) (e := e) workers he hidle hreport
  cases hdrain : s.pool.drain with
  | absent =>
      refine ⟨.drain .await, hdrains _ rfl ?_⟩
      simp [Pool.step, hdrain]
  | collecting n =>
      have hcollected : s.pool.collected = n := by rw [Pool.collected, hdrain, Drain.tokens]
      have hcapacity := hbalanced.capacity
      by_cases hall : n = s.pool.slots.capacity
      · refine ⟨.drain .idle, hdrains _ rfl ?_⟩
        simp [Pool.step, hdrain, hall]
      · -- the tokens that are missing are free, or some call is about to give one back
        have hfew : n < s.pool.slots.capacity := by
          have hinUse := hbalanced.inUse
          have hle := s.pool.slots.inUse_le
          omega
        rcases h.staffed.undisturbed.take_or_serve (by omega) with ⟨slots, htake⟩ | hserve
        · refine ⟨.drain .collect, hdrains _ rfl ?_⟩
          simp [Pool.step, hdrain, hfew, htake]
        · exact h.exists_step_of_canServe workers hserve
  | returning n =>
      cases n with
      | zero =>
          refine ⟨.drain .finish, hdrains _ rfl ?_⟩
          simp [Pool.step, hdrain]
      | succ n => exact ⟨.drain .giveBack, hdrains _ rfl (hbalanced.giveBack_isSome hdrain).2⟩

/-- **As long as there is no report and nobody broke down, something can happen.** -/
theorem Sound.exists_step (h : s.Sound r limit templates) (hworkers : 0 < workers)
    (hbroken : s.brokenDown = false) (hreport : s.report = none) :
    ∃ e, (s.step r workers e).isSome = true := by
  cases hjobs : s.jobs with
  | cons job jobs =>
      have hjob : job ∈ s.jobs := by simp [hjobs]
      exact h.exists_step_of_job workers hjob
  | nil =>
      cases hqueue : s.queue with
      | cons task queue =>
          refine ⟨.begin, ?_⟩
          cases hexpand : task.template.expand task.point with
          | error e => simp [Crew.step, hqueue, hjobs, hworkers, hexpand]
          | ok kernel => simp [Crew.step, hqueue, hjobs, hworkers, hexpand, Pool.step]
      | nil =>
          cases hahead : s.ahead with
          | cons t ahead => exact ⟨.enter, by simp [Crew.step, hahead, hqueue, hjobs, hbroken]⟩
          | nil =>
              have hidle := isIdle_iff.2 ⟨hahead, hqueue, hjobs, hbroken⟩
              exact h.exists_step_of_idle workers hidle hreport

end Crew

/-! ### Every event leaves less work -/

namespace Pool

/-- How many steps there are until whoever waits for the device has seen it idle. -/
def drainWork (limit : Nat) (s : Pool) : Nat :=
  match s.drain with
  | .absent => 2 * max 1 limit + 3
  | .collecting n => 2 * max 1 limit + 2 - n
  | .returning n => n + 1

theorem drainWork_pos {limit : Nat} {s : Pool} (h : s.Balanced limit) : 0 < s.drainWork limit := by
  cases hdrain : s.drain with
  | absent =>
      simp only [drainWork, hdrain]
      omega
  | collecting n =>
      have hinUse := h.inUse
      have hle := s.slots.inUse_le
      have hcapacity := h.capacity
      rw [collected, hdrain, Drain.tokens] at hinUse
      simp only [drainWork, hdrain]
      omega
  | returning n =>
      simp only [drainWork, hdrain]
      omega

theorem Balanced.drainWork_lt {limit : Nat} {s s' : Pool} {e : PoolEvent} (h : s.Balanced limit)
    (he : e.drains = true) (hfinish : e ≠ .finish) (hstep : s.step e = some s') :
    s'.drainWork limit < s.drainWork limit := by
  cases e with
  | await =>
      obtain ⟨hdrain, rfl⟩ := await_eq_some hstep
      simp only [drainWork, hdrain]
      omega
  | collect =>
      obtain ⟨n, hdrain, slots, htake, rfl⟩ := collect_eq_some hstep
      -- there was a token left to be taken
      obtain ⟨hcapacity, hmoved⟩ := Slots.take?_eq_some htake
      have hinUse := h.inUse
      have hle := slots.inUse_le
      have hsize := h.capacity
      rw [collected, hdrain, Drain.tokens] at hinUse
      simp only [drainWork, hdrain]
      omega
  | idle =>
      obtain ⟨n, hdrain, hall, rfl⟩ := idle_eq_some hstep
      simp only [drainWork, hdrain, hall, h.capacity]
      omega
  | giveBack =>
      obtain ⟨n, hdrain, slots, -, rfl⟩ := giveBack_eq_some hstep
      simp only [drainWork, hdrain]
      omega
  | finish => exact absurd rfl hfinish
  | submit patience outputs => cases he
  | call k e => cases he

end Pool

namespace Crew

variable {r : Runner} {workers limit : Nat} {templates : List Template} {s s' : Crew}

/-- How many events there can be until the report is there, at most, apart from those of calls. -/
def drainWork (limit : Nat) (s : Crew) : Nat :=
  if s.report.isSome then 0 else s.pool.drainWork limit

/-- How many events there can be, at most. A point that nobody has taken may cost seven: it is
taken, the worker of its call has five steps to its end, and the point is concluded. -/
def work (r : Runner) (limit : Nat) (s : Crew) : Nat :=
  (s.ahead.map fun t => 7 * (r.runTemplate t).resultList.length + 1).sum + 7 * s.queue.length +
    s.jobs.length + s.pool.work + s.drainWork limit

/-- **Every event leaves less work.** -/
theorem Sound.work_lt {e : CrewEvent} (h : s.Sound r limit templates)
    (hstep : s.step r workers e = some s') : s'.work r limit < s.work r limit := by
  cases e with
  | enter =>
      obtain ⟨t, ahead, hahead, hqueue, hjobs, -, rfl⟩ := enter_eq_some hstep
      obtain ⟨tasks, htasks, henter⟩ := s.enter_eq r t ahead hqueue
      have hlength : tasks.length = (r.runTemplate t).resultList.length := by
        rw [← htasks, List.length_map]
      rw [henter]
      simp only [work, drainWork, hahead, hqueue, List.map_cons, List.sum_cons, List.length_nil,
        hlength]
      omega
  | begin =>
      obtain ⟨task, queue, hqueue, -, ⟨e, -, rfl⟩ | ⟨kernel, pool, -, hpool, rfl⟩⟩ :=
        begin_eq_some hstep
      · simp only [work, drainWork, hqueue, List.length_cons]
        omega
      · have hwork := Pool.work_submit hpool
        have hdrain : pool.drainWork limit = s.pool.drainWork limit := by
          cases hpool
          rfl
        simp only [work, drainWork, hqueue, hwork, hdrain, List.length_cons, List.length_append,
          List.length_nil]
        omega
  | call k e =>
      obtain ⟨call, pool, -, hserves, -, hpool, rfl⟩ := call_eq_some hstep
      have hwork := Pool.work_serve hserves hpool
      have hdrain := Pool.drain_of_step_call hpool
      simp only [work, drainWork, Pool.drainWork, hdrain]
      omega
  | conclude j e =>
      obtain ⟨job, pool, call, result, hjob, hparts, hpool, -, -, rfl⟩ := conclude_eq_some hstep
      have hwork := Pool.work_part hparts hpool
      have hdrain := Pool.drain_of_step_call hpool
      have hlength := List.length_eraseIdx_of_lt (List.getElem?_eq_some_iff.1 hjob).1
      have hj := (List.getElem?_eq_some_iff.1 hjob).1
      simp only [work, drainWork, Pool.drainWork, hdrain, hwork, hlength]
      omega
  | breakDown j =>
      obtain ⟨job, call, pool, hjob, -, -, hpool, rfl⟩ := breakDown_eq_some hstep
      have hwork := Pool.work_breakDown hpool
      have hdrain := Pool.drain_of_step_call hpool
      have hlength := List.length_eraseIdx_of_lt (List.getElem?_eq_some_iff.1 hjob).1
      simp only [work, drainWork, Pool.drainWork, hdrain, hlength]
      omega
  | drain e =>
      obtain ⟨hdrains, -, hreport, pool, hpool, rfl⟩ := drain_eq_some hstep
      have hcalls := Pool.calls_of_drains hdrains hpool
      have hwork : pool.work = s.pool.work := by rw [Pool.work, hcalls, Pool.work]
      by_cases hfinish : e = .finish
      · have hpos := Pool.drainWork_pos h.staffed.undisturbed.balanced
        simp only [work, drainWork, hreport, hwork, hfinish, if_true, Option.isSome_some,
          Option.isSome_none, Bool.false_eq_true, if_false]
        omega
      · have hless := h.staffed.undisturbed.balanced.drainWork_lt hdrains hfinish hpool
        simp only [work, drainWork, hreport, hwork, hfinish, if_false, Option.isSome_none,
          Bool.false_eq_true]
        omega

/-- No run is longer than the work at its beginning. -/
theorem Sound.length_le {es : List CrewEvent} (htime : r.config.timeout.isZero = false)
    (h : s.Sound r limit templates) (hrun : s.run r workers es = some s') :
    es.length ≤ s.work r limit := by
  induction es generalizing s with
  | nil => exact Nat.zero_le _
  | cons e es ih =>
      obtain ⟨t, hstep, hrest⟩ := run_cons_eq_some hrun
      have hless := h.work_lt hstep
      have hlater := ih (h.step htime hstep) hrest
      rw [List.length_cons]
      omega

theorem work_start (r : Runner) (limit : Nat) (templates : List Template) :
    (start limit templates).work r limit =
      7 * ((templates.map r.runTemplate).flatMap (·.resultList)).length + templates.length +
        (2 * max 1 limit + 3) := by
  have hsum : (templates.map fun t => 7 * (r.runTemplate t).resultList.length + 1).sum =
      7 * ((templates.map r.runTemplate).flatMap (·.resultList)).length + templates.length := by
    induction templates with
    | nil => rfl
    | cons t templates ih =>
        simp only [List.map_cons, List.sum_cons, List.flatMap_cons, List.length_append,
          List.length_cons, ih]
        omega
  rw [work, start, hsum]
  rfl

/-! ### The report -/

/-- **What a report is about**: all templates, and all their results, in some order. -/
theorem Sound.report_eq {report : Report} (h : s.Sound r limit templates)
    (hreport : s.report = some report) :
    ∃ results, results.Perm ((templates.map r.runTemplate).flatMap (·.resultList)) ∧
      report = Report.ofResults r.config.seed results
        ((templates.map r.runTemplate).flatMap (·.rejectionList)) := by
  obtain ⟨hidle, rfl⟩ := h.reported report hreport
  obtain ⟨hahead, hqueue, hjobs, hbroken⟩ := isIdle_iff.1 hidle
  obtain ⟨done, lost, htemplates, hrejected, hresults, hlost⟩ := h.accounted
  obtain rfl := hlost hbroken
  rw [hahead, List.append_nil] at htemplates
  subst htemplates
  rw [due, hjobs, hqueue] at hresults
  exact ⟨s.results, by simpa using hresults, by rw [hrejected]⟩

end Crew

end Crosscheck
