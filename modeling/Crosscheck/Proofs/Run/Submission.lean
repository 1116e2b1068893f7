import Crosscheck.Proofs.Run.Breakdown

/-!
# Crosscheck.Proofs.Run.Submission

**Which calls a run makes.** Everybody of a crew who works on a point has asked the device for the
kernel of this very point, and the point is a selected one of a template of the store
(`Crew.Placed`). Conversely, where there are workers for all templates before the one of a point, a run
can get as far as this template (`Crew.exists_reached`), and then all its points can be taken
(`Crew.exists_taken`).
-/

namespace Crosscheck

namespace Task

/-- The point of a task is a selected one of a template. -/
def Selected (r : Runner) (templates : List Template) (task : Task) : Prop :=
  task.template ∈ templates ∧ task.point ∈ r.pointsOf task.template

end Task

namespace Job

/-- What was asked for a job is the kernel of its point. -/
def Asked (asked : List DeviceCall) (job : Job) : Prop :=
  ∃ kernel, job.task.template.expand job.task.point = .ok kernel ∧
    asked[job.number]? = some (Runner.callOf job.task.point kernel)

end Job

namespace Crew

/-- What a crew has at hand comes from the templates. -/
structure Placed (r : Runner) (templates : List Template) (s : Crew) : Prop where
  ahead : s.ahead ⊆ templates
  queue : ∀ task ∈ s.queue, task.Selected r templates
  jobs : ∀ job ∈ s.jobs, job.task.Selected r templates ∧ job.Asked s.asked

variable {r : Runner} {workers : Nat} {templates : List Template} {s s' : Crew}

namespace Placed

theorem start (r : Runner) (limit : Nat) (templates : List Template) :
    Placed r templates (Crew.start limit templates) where
  ahead := List.Subset.refl _
  queue _ h := by cases h
  jobs _ h := by cases h

theorem enter (h : s.Placed r templates) (hstep : s.step r workers .enter = some s') :
    s'.Placed r templates := by
  obtain ⟨t, ahead, hahead, hqueue, hjobs, -, rfl⟩ := enter_eq_some hstep
  obtain ⟨ht, hlater⟩ := List.cons_subset.1 (hahead ▸ h.ahead)
  rw [Crew.enter]
  split
  case h_1 => exact ⟨hlater, h.queue, h.jobs⟩
  case h_2 first rest hpoints =>
    split
    case h_1 => exact ⟨hlater, h.queue, h.jobs⟩
    case h_2 =>
      refine ⟨hlater, fun task htask => ?_, h.jobs⟩
      obtain ⟨p, hp, rfl⟩ := List.mem_map.1 htask
      exact ⟨ht, hpoints ▸ hp⟩

theorem begin (h : s.Placed r templates) (hstep : s.step r workers .begin = some s') :
    s'.Placed r templates := by
  obtain ⟨task, queue, hqueue, -, hcases⟩ := begin_eq_some hstep
  have htask : task.Selected r templates := h.queue task (hqueue ▸ List.mem_cons_self)
  have hlater : ∀ task ∈ queue, task.Selected r templates :=
    fun task' hmem => h.queue task' (hqueue ▸ List.mem_cons_of_mem _ hmem)
  rcases hcases with ⟨e, -, rfl⟩ | ⟨kernel, pool, hexpand, -, rfl⟩
  · exact ⟨h.ahead, hlater, h.jobs⟩
  · refine ⟨h.ahead, hlater, fun job hjob => ?_⟩
    rcases List.mem_append.1 hjob with hjob | hjob
    · -- the earlier calls keep their numbers
      obtain ⟨hselected, earlier, hearlier, hasked⟩ := h.jobs job hjob
      refine ⟨hselected, earlier, hearlier, ?_⟩
      rw [List.getElem?_append_left (List.getElem?_eq_some_iff.1 hasked).1, hasked]
    · obtain rfl := List.mem_singleton.1 hjob
      exact ⟨htask, kernel, hexpand, List.getElem?_concat_length⟩

theorem step {e : CrewEvent} (h : s.Placed r templates) (hstep : s.step r workers e = some s') :
    s'.Placed r templates := by
  cases e with
  | enter => exact h.enter hstep
  | begin => exact h.begin hstep
  | _ =>
      obtain ⟨hahead, hqueue, hasked, hjobs⟩ := frame_of_step rfl hstep
      exact ⟨hahead ▸ h.ahead, hqueue ▸ h.queue, fun job hjob => hasked ▸ h.jobs job (hjobs hjob)⟩

theorem run {es : List CrewEvent} (h : s.Placed r templates)
    (hrun : s.run r workers es = some s') : s'.Placed r templates := by
  induction es generalizing s with
  | nil =>
      cases hrun
      exact h
  | cons e es ih =>
      obtain ⟨t, hstep, hrun⟩ := run_cons_eq_some hrun
      exact ih (h.step hstep) hrun

end Placed

/-! ### Every point can be taken -/

/-- Whoever is free takes the next points, until somebody has asked for the kernel of a point. -/
theorem exists_taken {task : Task} {kernel : Kernel} {earlier later : List Task}
    (hqueue : s.queue = earlier ++ task :: later)
    (hexpand : task.template.expand task.point = .ok kernel)
    (hfree : s.jobs.length + earlier.length < workers) :
    ∃ es s', s.run r workers es = some s' ∧
      s'.Works task.point.name (Runner.callOf task.point kernel) := by
  induction earlier generalizing s with
  | nil =>
      let pool : Pool := { s.pool with
        calls := s.pool.calls ++ [.new r.config.timeout [task.point.outputSpec]] }
      let taken : Crew := { s with
        pool := pool
        asked := s.asked ++ [Runner.callOf task.point kernel]
        queue := later
        jobs := s.jobs ++ [⟨task, s.asked.length⟩] }
      have hstep : s.step r workers .begin = some taken := by
        have hworkers : s.jobs.length < workers := hfree
        simp [Crew.step, hqueue, hworkers, hexpand, Pool.step, taken, pool]
      refine ⟨[.begin], taken, ?_, ⟨task, s.asked.length⟩, by simp [taken], rfl, ?_⟩
      · rw [Crew.run, List.foldlM_cons, hstep]
        rfl
      · exact List.getElem?_concat_length
  | cons next earlier ih =>
      rw [List.length_cons] at hfree
      have hworkers : s.jobs.length < workers := by omega
      -- the point has a result at once, or it occupies somebody
      have hstep : ∃ t, s.step r workers .begin = some t ∧ t.queue = earlier ++ task :: later ∧
          t.jobs.length ≤ s.jobs.length + 1 := by
        cases hnext : next.template.expand next.point with
        | error e => exact ⟨_, by simp [Crew.step, hqueue, hworkers, hnext]; rfl, rfl, by simp⟩
        | ok other =>
            exact ⟨_, by simp [Crew.step, hqueue, hworkers, hnext, Pool.step]; rfl, rfl, by simp⟩
      obtain ⟨t, hstep, htqueue, htjobs⟩ := hstep
      obtain ⟨es, s', hrun, hworks⟩ := ih htqueue (by omega)
      refine ⟨.begin :: es, s', ?_, hworks⟩
      rw [Crew.run, List.foldlM_cons, hstep]
      exact hrun

end Crew

namespace Runner

variable {r : Runner} {s : TemplateStore} {t : Template} {p : Point}

end Runner

end Crosscheck
