import Crosscheck.Proofs.Run.Completion

/-!
# Crosscheck.Proofs.Run.Breakdown

**A run breaks down if no worker can be named for a point, and reports otherwise.** Whoever has made a
call for which no worker can be named stays with it or breaks down (`Crew.Sound.stays_run`), and every
point that has a kernel is taken before there is a report (`Crew.Ahead.exists_works`). So there is no
report on a template with such calls (`Crew.Sound.canRun_of_report`). A crew that has only other
templates at hand and ahead does not break down (`Crew.Clear.run`), and it can go on until there is a
report (`Crew.exists_report`).
-/

namespace Crosscheck

namespace Crew

variable {r : Runner} {workers limit : Nat} {templates : List Template} {s s' : Crew}

/-! ### Every point is taken -/

/-- Nobody has taken a point yet: it is in the queue, or its template was not taken up. -/
def Ahead (r : Runner) (task : Task) (s : Crew) : Prop :=
  task ∈ s.queue ∨
    task.template ∈ s.ahead ∧ r.rejects task.template = false ∧ task.point ∈ r.pointsOf task.template

/-- Somebody works on a point, and has asked for a call. -/
def Works (name : String) (call : DeviceCall) (s : Crew) : Prop :=
  ∃ job ∈ s.jobs, job.task.point.name = name ∧ s.asked[job.number]? = some call

/-- A template that has points and is not skipped gives all its points to the crew. -/
theorem enter_of_mem {t : Template} {p : Point} (ahead : List Template)
    (hrejects : r.rejects t = false) (hp : p ∈ r.pointsOf t) :
    s.enter r t ahead = { s with ahead := ahead, queue := (r.pointsOf t).map (⟨t, ·⟩) } := by
  rw [Runner.rejects] at hrejects
  rw [enter]
  cases hpoints : r.pointsOf t with
  | nil =>
      rw [hpoints] at hp
      cases hp
  | cons first rest =>
      rw [hpoints] at hrejects
      dsimp only at hrejects ⊢
      cases hexpand : t.expand first with
      | error e => simp [hexpand] at hrejects
      | ok _ => rfl

theorem Ahead.enter {task : Task} (h : s.Ahead r task)
    (hstep : s.step r workers .enter = some s') : s'.Ahead r task := by
  obtain ⟨t, ahead, hahead, hqueue, -, -, rfl⟩ := enter_eq_some hstep
  rcases h with hmem | ⟨hmem, hrejects, hpoint⟩
  · rw [hqueue] at hmem
    cases hmem
  · rw [hahead, List.mem_cons] at hmem
    rcases hmem with rfl | hmem
    · rw [enter_of_mem ahead hrejects hpoint]
      exact .inl (List.mem_map_of_mem hpoint)
    · obtain ⟨_, -, henter⟩ := s.enter_eq r t ahead hqueue
      rw [henter]
      exact .inr ⟨hmem, hrejects, hpoint⟩

theorem Ahead.begin {task : Task} {kernel : Kernel} (h : s.Ahead r task)
    (hexpand : task.template.expand task.point = .ok kernel)
    (hstep : s.step r workers .begin = some s') :
    s'.Ahead r task ∨ s'.Works task.point.name (Runner.callOf task.point kernel) := by
  obtain ⟨taken, queue, hqueue, -, hcases⟩ := begin_eq_some hstep
  have hrest : s'.ahead = s.ahead ∧ s'.queue = queue := by
    rcases hcases with ⟨_, -, rfl⟩ | ⟨_, _, -, -, rfl⟩
    · exact ⟨rfl, rfl⟩
    · exact ⟨rfl, rfl⟩
  have hlater : task = taken ∨ s'.Ahead r task := by
    rw [Ahead, hrest.1, hrest.2]
    rw [Ahead, hqueue, List.mem_cons, or_assoc] at h
    exact h
  rcases hlater with rfl | hahead
  · rcases hcases with ⟨e, herror, -⟩ | ⟨kernel', pool, hkernel, -, rfl⟩
    · rw [hexpand] at herror
      cases herror
    · obtain rfl : kernel = kernel' := Except.ok.inj (hexpand.symm.trans hkernel)
      exact .inr ⟨⟨task, s.asked.length⟩, by simp, rfl, List.getElem?_concat_length⟩
  · exact .inl hahead

/-- A point that has a kernel stays ahead until somebody asks for the kernel. -/
theorem Ahead.step {e : CrewEvent} {task : Task} {kernel : Kernel} (h : s.Ahead r task)
    (hexpand : task.template.expand task.point = .ok kernel)
    (hstep : s.step r workers e = some s') :
    s'.Ahead r task ∨ s'.Works task.point.name (Runner.callOf task.point kernel) := by
  cases e with
  | enter => exact .inl (h.enter hstep)
  | begin => exact h.begin hexpand hstep
  | _ =>
      obtain ⟨hahead, hqueue, -, -⟩ := frame_of_step rfl hstep
      rw [Ahead, hahead, hqueue]
      exact .inl h

/-- If a point is ahead at first and not in the end, somebody asked for its kernel in between. -/
theorem Ahead.exists_works {es : List CrewEvent} {task : Task} {kernel : Kernel} (h : s.Ahead r task)
    (hexpand : task.template.expand task.point = .ok kernel)
    (hrun : s.run r workers es = some s') (hdone : ¬ s'.Ahead r task) :
    ∃ before between after, s.run r workers before = some between ∧
      between.Works task.point.name (Runner.callOf task.point kernel) ∧
      between.run r workers after = some s' := by
  induction es generalizing s with
  | nil =>
      cases hrun
      exact absurd h hdone
  | cons e es ih =>
      obtain ⟨t, hstep, hrun⟩ := run_cons_eq_some hrun
      have hcons : ∀ before, s.run r workers (e :: before) = t.run r workers before := by
        intro before
        rw [run, List.foldlM_cons, hstep]
        rfl
      rcases h.step hexpand hstep with hahead | hworks
      · obtain ⟨before, between, after, hbefore, hworks, hafter⟩ := ih hahead hrun
        exact ⟨e :: before, between, after, (hcons before).trans hbefore, hworks, hafter⟩
      · exact ⟨[e], t, es, hcons [], hworks, hrun⟩

/-! ### Who cannot be served -/

/-- Somebody works on a point whose call has no worker to be named. -/
def HasUnnamed (s : Crew) : Prop :=
  ∃ job ∈ s.jobs, ∃ call, s.asked[job.number]? = some call ∧ call.isNameable = false

/-- Taking out a job leaves any other job. -/
theorem mem_eraseIdx_of_ne {jobs : List Job} {j : Nat} {job other : Job} (hj : jobs[j]? = some other)
    (hmem : job ∈ jobs) (hne : job ≠ other) : job ∈ jobs.eraseIdx j := by
  have hcons := (perm_eraseIdx hj).mem_iff.2 hmem
  exact (List.mem_cons.1 hcons).resolve_left hne

/-- **Whoever cannot be served stays, or somebody breaks down.** -/
theorem Sound.stays_step {e : CrewEvent} (h : s.Sound r limit templates) (hunnamed : s.HasUnnamed)
    (hstep : s.step r workers e = some s') : s'.HasUnnamed ∨ s'.brokenDown = true := by
  obtain ⟨job, hjob, call, hcall, hnameable⟩ := hunnamed
  cases e with
  | enter =>
      obtain ⟨_, _, -, -, hjobs, -, -⟩ := enter_eq_some hstep
      rw [hjobs] at hjob
      cases hjob
  | begin =>
      obtain ⟨task, queue, -, -, ⟨e, -, rfl⟩ | ⟨kernel, pool, -, -, rfl⟩⟩ := begin_eq_some hstep
      · exact .inl ⟨job, hjob, call, hcall, hnameable⟩
      · refine .inl ⟨job, List.mem_append_left _ hjob, call, ?_, hnameable⟩
        rw [List.getElem?_append_left (List.getElem?_eq_some_iff.1 hcall).1, hcall]
  | call k e =>
      obtain ⟨_, _, -, -, -, -, rfl⟩ := call_eq_some hstep
      exact .inl ⟨job, hjob, call, hcall, hnameable⟩
  | conclude j e =>
      obtain ⟨other, pool, _, _, hother, hparts, hpool, -, -, rfl⟩ := conclude_eq_some hstep
      refine .inl ⟨job, mem_eraseIdx_of_ne hother hjob ?_, call, hcall, hnameable⟩
      -- nobody is done with a call without a worker
      rintro rfl
      obtain ⟨c, c', hc, hcstep, -, -, -⟩ := Pool.step_call_eq_some hpool
      have hunstarted := h.staffed.unstarted _ call c hcall hc hnameable
      have hcaller := (Call.step_eq_some hcstep).2
      rw [hunstarted.step_of_parts hparts] at hcaller
      cases hcaller
  | breakDown j =>
      obtain ⟨_, _, _, -, -, -, -, rfl⟩ := breakDown_eq_some hstep
      exact .inr rfl
  | drain e =>
      obtain ⟨-, -, -, _, -, rfl⟩ := drain_eq_some hstep
      exact .inl ⟨job, hjob, call, hcall, hnameable⟩

/-- Nobody recovers from a breakdown. -/
theorem brokenDown_step {e : CrewEvent} (h : s.brokenDown = true)
    (hstep : s.step r workers e = some s') : s'.brokenDown = true := by
  cases e with
  | enter =>
      obtain ⟨_, _, -, -, -, hbroken, -⟩ := enter_eq_some hstep
      rw [h] at hbroken
      cases hbroken
  | begin =>
      obtain ⟨_, _, -, -, ⟨_, -, rfl⟩ | ⟨_, _, -, -, rfl⟩⟩ := begin_eq_some hstep
      · exact h
      · exact h
  | call k e =>
      obtain ⟨_, _, -, -, -, -, rfl⟩ := call_eq_some hstep
      exact h
  | conclude j e =>
      obtain ⟨_, _, _, _, -, -, -, -, -, rfl⟩ := conclude_eq_some hstep
      exact h
  | breakDown j =>
      obtain ⟨_, _, _, -, -, -, -, rfl⟩ := breakDown_eq_some hstep
      rfl
  | drain e =>
      obtain ⟨-, -, -, _, -, rfl⟩ := drain_eq_some hstep
      exact h

theorem Sound.stays_run {es : List CrewEvent} (htime : r.config.timeout.isZero = false)
    (h : s.Sound r limit templates) (hstuck : s.HasUnnamed ∨ s.brokenDown = true)
    (hrun : s.run r workers es = some s') : s'.HasUnnamed ∨ s'.brokenDown = true := by
  induction es generalizing s with
  | nil =>
      cases hrun
      exact hstuck
  | cons e es ih =>
      obtain ⟨t, hstep, hrest⟩ := run_cons_eq_some hrun
      refine ih (h.step htime hstep) ?_ hrest
      rcases hstuck with hunnamed | hbroken
      · exact h.stays_step hunnamed hstep
      · exact .inr (brokenDown_step hbroken hstep)

/-- **Where there is a report, there were workers for everything.** -/
theorem Sound.canRun_of_report {es : List CrewEvent} {report : Report}
    (htime : r.config.timeout.isZero = false)
    (hrun : (Crew.start limit templates).run r workers es = some s) (hreport : s.report = some report)
    {t : Template} (ht : t ∈ templates) : r.canRun t = true := by
  have hstart := Sound.start r limit templates
  obtain ⟨hahead, hqueue, hjobs, hbroken⟩ :=
    isIdle_iff.1 ((hstart.run htime hrun).reported report hreport).1
  rw [← Bool.not_eq_false]
  intro hcannot
  obtain ⟨hnameable, hrejects, p, kernel, hp, hexpand⟩ :=
    Runner.exists_first_of_canRun_eq_false hcannot
  -- somebody took the point and could not be served
  have hfirst : (Crew.start limit templates).Ahead r ⟨t, p⟩ := .inr ⟨ht, hrejects, hp⟩
  have hdone : ¬ s.Ahead r ⟨t, p⟩ := by simp [Ahead, hahead, hqueue]
  obtain ⟨before, between, after, hbefore, ⟨job, hjob, -, hasked⟩, hafter⟩ :=
    hfirst.exists_works hexpand hrun hdone
  have hunnamed : between.HasUnnamed :=
    ⟨job, hjob, _, hasked, (Runner.isNameable_callOf hexpand).trans hnameable⟩
  rcases (hstart.run htime hbefore).stays_run htime (.inl hunnamed) hafter with
    ⟨job, hjob, -⟩ | hbrokenDown
  · rw [hjobs] at hjob
    cases hjob
  · rw [hbroken] at hbrokenDown
    cases hbrokenDown

/-! ### Who can be served -/

/-- Nobody broke down, and nobody will before the templates in `rest` are taken up. -/
structure Clear (r : Runner) (rest : List Template) (s : Crew) : Prop where
  intact : s.brokenDown = false
  named : ∀ task ∈ s.due, task.template.isNameable = true
  workable : ∃ before, s.ahead = before ++ rest ∧ ∀ t ∈ before, r.canRun t = true

variable {rest : List Template}

theorem Clear.enter (h : s.Clear r rest) (hmore : s.ahead ≠ rest)
    (hstep : s.step r workers .enter = some s') : s'.Clear r rest := by
  obtain ⟨t, ahead, hahead, hqueue, hjobs, hbroken, rfl⟩ := enter_eq_some hstep
  obtain ⟨before, hsplit, hcan⟩ := h.workable
  cases before with
  | nil => exact absurd hsplit hmore
  | cons u before =>
      rw [hahead, List.cons_append, List.cons.injEq] at hsplit
      obtain ⟨rfl, hsplit⟩ := hsplit
      have hlater : ∃ before, ahead = before ++ rest ∧ ∀ t ∈ before, r.canRun t = true :=
        ⟨before, hsplit, fun u hu => hcan u (List.mem_cons_of_mem _ hu)⟩
      have hcan : r.canRun t = true := hcan t List.mem_cons_self
      rw [Runner.canRun_eq, Runner.rejects] at hcan
      rw [Crew.enter]
      split
      case h_1 => exact ⟨hbroken, h.named, hlater⟩
      case h_2 first others hpoints =>
        rw [hpoints] at hcan
        split
        case h_1 => exact ⟨hbroken, h.named, hlater⟩
        case h_2 kernel hexpand =>
          refine ⟨hbroken, fun task htask => ?_, hlater⟩
          simp only [due, hjobs, List.map_nil, List.nil_append] at htask
          obtain ⟨p, -, rfl⟩ := List.mem_map.1 htask
          simpa [hexpand] using hcan

theorem Clear.begin (h : s.Clear r rest) (hstep : s.step r workers .begin = some s') :
    s'.Clear r rest := by
  obtain ⟨task, queue, hqueue, -, ⟨e, -, rfl⟩ | ⟨kernel, pool, -, -, rfl⟩⟩ := begin_eq_some hstep
  · refine ⟨h.intact, fun other hother => h.named other ?_, h.workable⟩
    simp only [due, hqueue, List.mem_append, List.mem_cons] at hother ⊢
    exact hother.imp_right .inr
  · refine ⟨h.intact, fun other hother => h.named other ?_, h.workable⟩
    simpa [due, hqueue, List.mem_append, or_assoc] using hother

theorem ahead_ne_nil_of_enter (h : s.step r workers .enter = some s') : s.ahead ≠ [] := by
  obtain ⟨t, ahead, hahead, -⟩ := enter_eq_some h
  rw [hahead]
  exact List.cons_ne_nil t ahead

/-- **Nobody breaks down** until all templates that there are workers for are done. -/
theorem Clear.step {e : CrewEvent} (h : s.Clear r rest) (hsound : s.Sound r limit templates)
    (hmore : e = .enter → s.ahead ≠ rest) (hstep : s.step r workers e = some s') :
    s'.Clear r rest := by
  cases e with
  | enter => exact h.enter (hmore rfl) hstep
  | begin => exact h.begin hstep
  | call k e =>
      obtain ⟨_, _, -, -, -, -, rfl⟩ := call_eq_some hstep
      exact ⟨h.intact, h.named, h.workable⟩
  | conclude j e =>
      obtain ⟨_, _, _, _, -, -, -, -, -, rfl⟩ := conclude_eq_some hstep
      refine ⟨h.intact, fun task htask => h.named task ?_, h.workable⟩
      rw [due, List.mem_append] at htask ⊢
      exact htask.imp_left fun hmem => (List.map_subset _ (List.eraseIdx_subset ..)) hmem
  | breakDown j =>
      obtain ⟨job, call, _, hjob, hcall, hnameable, -, -⟩ := breakDown_eq_some hstep
      have hmem : job ∈ s.jobs := List.mem_of_getElem? hjob
      obtain ⟨⟨kernel, hexpand, hasked⟩, -⟩ := hsound.staffed.works job hmem
      obtain rfl : call = _ := Option.some.inj (hcall.symm.trans hasked)
      have htask := h.named job.task (List.mem_append_left _ (List.mem_map_of_mem hmem))
      rw [Runner.isNameable_callOf hexpand, htask] at hnameable
      cases hnameable
  | drain e =>
      obtain ⟨-, -, -, _, -, rfl⟩ := drain_eq_some hstep
      exact ⟨h.intact, h.named, h.workable⟩

/-- At the beginning, everybody can be served for whom there are workers. -/
theorem Clear.start (limit : Nat) {before : List Template} (hsplit : templates = before ++ rest)
    (hcan : ∀ t ∈ before, r.canRun t = true) : (start limit templates).Clear r rest :=
  ⟨rfl, fun _ htask => (List.not_mem_nil htask).elim, before, hsplit, hcan⟩

/-- **Where there are workers for everything, nobody breaks down**, in whatever order things happen. -/
theorem Clear.run {es : List CrewEvent} (htime : r.config.timeout.isZero = false)
    (h : s.Clear r []) (hsound : s.Sound r limit templates)
    (hrun : s.run r workers es = some s') : s'.Clear r [] := by
  induction es generalizing s with
  | nil =>
      cases hrun
      exact h
  | cons e es ih =>
      obtain ⟨t, hstep, hrest⟩ := run_cons_eq_some hrun
      refine ih (h.step hsound ?_ hstep) (hsound.step htime hstep) hrest
      rintro rfl
      exact ahead_ne_nil_of_enter hstep

/-- **A crew that nobody leaves can go on until something is the case**, if it can always take a step
that takes up no template of `rest` until then. -/
theorem Sound.exists_run (workers : Nat) (P : Crew → Prop) (htime : r.config.timeout.isZero = false)
    (h : s.Sound r limit templates) (hclear : s.Clear r rest)
    (hgo : ∀ {u : Crew}, u.Sound r limit templates → u.Clear r rest → ¬ P u →
      ∃ e, (u.step r workers e).isSome = true ∧ (e = .enter → u.ahead ≠ rest)) :
    ∃ es s', s.run r workers es = some s' ∧ s'.Sound r limit templates ∧ s'.Clear r rest ∧ P s' := by
  -- every event leaves less work
  induction hwork : s.work r limit using Nat.strongRecOn generalizing s with
  | ind n ih =>
      by_cases hdone : P s
      · exact ⟨[], s, rfl, h, hclear, hdone⟩
      · obtain ⟨e, hstep, hmore⟩ := hgo h hclear hdone
        obtain ⟨t, hstep⟩ := Option.isSome_iff_exists.1 hstep
        obtain ⟨es, s', hrun, hs'⟩ := ih (t.work r limit) (hwork ▸ h.work_lt hstep)
          (h.step htime hstep) (hclear.step h hmore hstep) rfl
        refine ⟨e :: es, s', ?_, hs'⟩
        rw [Crew.run, List.foldlM_cons, hstep]
        exact hrun

/-- **Where there are workers for everything, some order of events ends with a report.** -/
theorem exists_report (limit : Nat) (htime : r.config.timeout.isZero = false) (hworkers : 0 < workers)
    (hcan : ∀ t ∈ templates, r.canRun t = true) :
    ∃ es s' report, (start limit templates).run r workers es = some s' ∧ s'.report = some report := by
  have hclear : (start limit templates).Clear r [] :=
    .start limit (List.append_nil templates).symm hcan
  obtain ⟨es, s', hrun, -, -, hreport⟩ := (Sound.start r limit templates).exists_run
    workers (fun u => u.report.isSome = true) htime hclear
    fun {u} hsound hclear hnone => by
      have hnone : u.report = none := by simpa using hnone
      obtain ⟨e, hstep⟩ := hsound.exists_step hworkers hclear.intact hnone
      refine ⟨e, hstep, ?_⟩
      rintro rfl
      obtain ⟨u', hstep⟩ := Option.isSome_iff_exists.1 hstep
      exact ahead_ne_nil_of_enter hstep
  obtain ⟨report, hreport⟩ := Option.isSome_iff_exists.1 hreport
  exact ⟨es, s', report, hrun, hreport⟩

end Crew

end Crosscheck
