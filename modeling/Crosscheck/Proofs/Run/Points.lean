import Crosscheck.Run

/-!
# Crosscheck.Proofs.Run.Points

**What a run makes of its templates, point by point.** A template whose first selected point has no
kernel is rejected and gives no results; any other template gives one result for each selected point
(`perm_results_report`). The results of the templates are put in order, and nothing is added or lost.

All kernels of a template have the entry point of the template, so there are workers for all calls of
its points or for none (`Runner.canRun_eq`), and a run breaks down over whole templates
(`Runner.run_eq_none`).
-/

namespace Crosscheck

namespace Runner

variable {r : Runner} {t : Template} {s : TemplateStore}

/-- The selected points of a template. -/
def pointsOf (r : Runner) (t : Template) : List Point :=
  Matrix.points r.registry t r.config.matrixOptions r.selection

/-- Whether a template is skipped: it has selected points, and the first of them has no kernel. -/
def rejects (r : Runner) (t : Template) : Bool :=
  match r.pointsOf t with
  | [] => false
  | p :: _ => t.expand p matches .error _

/-- What is made of a template, in terms of its points. -/
theorem runTemplate_eq (r : Runner) (t : Template) :
    r.runTemplate t =
      match r.pointsOf t with
      | [] => .results []
      | first :: rest =>
        match t.expand first with
        | .error e => .rejected ⟨t.id, e.message⟩
        | .ok _ => .results ((first :: rest).map (r.runPoint t)) := by
  rw [runTemplate, pointsOf, Matrix.points]
  cases Matrix.selected r.registry t r.config.matrixOptions r.selection with
  | nil => rfl
  | cons first rest =>
      rw [List.map_cons]
      dsimp only
      cases t.expand (Matrix.materialize t r.config.matrixOptions first) with
      | error e => rfl
      | ok kernel => simp only [List.map_cons, List.map_map, Function.comp_def]

theorem runTemplate_of_rejects (h : r.rejects t = true) :
    ∃ reason, r.runTemplate t = .rejected ⟨t.id, reason⟩ := by
  rw [rejects] at h
  rw [runTemplate_eq]
  cases hpoints : r.pointsOf t with
  | nil =>
      rw [hpoints] at h
      cases h
  | cons first rest =>
      rw [hpoints] at h
      dsimp only at h ⊢
      cases hexpand : t.expand first with
      | error e => exact ⟨_, rfl⟩
      | ok kernel =>
          rw [hexpand] at h
          cases h

theorem runTemplate_of_not_rejects (h : r.rejects t = false) :
    r.runTemplate t = .results ((r.pointsOf t).map (r.runPoint t)) := by
  rw [rejects] at h
  rw [runTemplate_eq]
  cases hpoints : r.pointsOf t with
  | nil => rfl
  | cons first rest =>
      rw [hpoints] at h
      dsimp only at h ⊢
      cases hexpand : t.expand first with
      | error e =>
          rw [hexpand] at h
          cases h
      | ok kernel => rfl

/-- Which templates a run rejects, in order. -/
theorem templates_rejected_report (r : Runner) (s : TemplateStore) :
    (r.report s).rejected.map (·.template) = (s.templates.filter r.rejects).map (·.id) := by
  show ((s.templates.map r.runTemplate).flatMap (·.rejectionList)).map (·.template) = _
  rw [List.flatMap_map, List.map_flatMap]
  induction s.templates with
  | nil => rfl
  | cons t ts ih =>
      rw [List.flatMap_cons, ih]
      cases hrejects : r.rejects t with
      | true =>
          obtain ⟨reason, hrun⟩ := runTemplate_of_rejects hrejects
          rw [hrun, List.filter_cons_of_pos hrejects]
          rfl
      | false =>
          rw [runTemplate_of_not_rejects hrejects, List.filter_cons_of_neg (by simp [hrejects])]
          rfl

/-- The results of all templates, template by template. -/
def resultsOf (r : Runner) (s : TemplateStore) : List TestResult :=
  (s.templates.filter fun t => !r.rejects t).flatMap fun t => (r.pointsOf t).map (r.runPoint t)

theorem flatMap_resultList (r : Runner) (s : TemplateStore) :
    (s.templates.map r.runTemplate).flatMap (·.resultList) = r.resultsOf s := by
  rw [resultsOf, List.flatMap_map]
  induction s.templates with
  | nil => rfl
  | cons t ts ih =>
      rw [List.flatMap_cons, ih]
      cases hrejects : r.rejects t with
      | true =>
          obtain ⟨reason, hrun⟩ := runTemplate_of_rejects hrejects
          rw [hrun, List.filter_cons_of_neg (by simp [hrejects])]
          rfl
      | false =>
          rw [runTemplate_of_not_rejects hrejects, List.filter_cons_of_pos (by simp [hrejects])]
          rfl

/-- **There is one result for every selected point of every template that is not rejected.** -/
theorem perm_results_report (r : Runner) (s : TemplateStore) :
    (r.report s).results.Perm (r.resultsOf s) := by
  rw [← flatMap_resultList]
  exact List.mergeSort_perm _ _

theorem mem_resultsOf {result : TestResult} :
    result ∈ r.resultsOf s ↔
      ∃ t ∈ s.templates, r.rejects t = false ∧ ∃ p ∈ r.pointsOf t, r.runPoint t p = result := by
  simp only [resultsOf, List.mem_flatMap, List.mem_filter, List.mem_map, Bool.not_eq_true', and_assoc]

/-! ### One point -/

section Point

variable {p : Point} {kernel : Kernel} {expected : Buffer}
  {answer : Except ExecutionFailure (List Buffer)}

/-- What the device is asked to do for a point that has a kernel. -/
def callOf (p : Point) (kernel : Kernel) : DeviceCall := ⟨kernel, p.inputs, [p.outputSpec]⟩

theorem runPoint_of_error {e : CheckError} (h : t.expand p = .error e) :
    r.runPoint t p = .generationFailure p e.message := by
  rw [runPoint, h]

theorem runPoint_of_oracle_error {e : CheckError} (hexpand : t.expand p = .ok kernel)
    (h : r.oracle.expectedOutput p = .error e) :
    r.runPoint t p = .generationFailure p e.message := by
  rw [runPoint, hexpand]
  dsimp only
  rw [h]

theorem runPoint_of_ok (hexpand : t.expand p = .ok kernel)
    (h : r.oracle.expectedOutput p = .ok expected) :
    r.runPoint t p = r.judge p expected (r.execute (callOf p kernel)) := by
  rw [runPoint, hexpand]
  dsimp only
  rw [h]
  rfl

theorem compare_point (c : Comparator) (p : Point) (expected actual : Buffer) :
    (c.compare p expected actual).point = p.key := by
  rw [Comparator.compare]
  split
  · rfl
  · rfl

theorem judge_point : (r.judge p expected answer).point = p.key := by
  rw [judge.eq_def]
  split
  · exact compare_point _ _ _ _
  · rfl
  · rfl

theorem runPoint_point (r : Runner) (t : Template) (p : Point) : (r.runPoint t p).point = p.key := by
  rw [runPoint]
  split
  · rfl
  · split
    · rfl
    · exact judge_point

/-- Whatever the device answers, the point had a kernel and an expected output. -/
theorem judge_outcome_ne (reason : String) :
    (r.judge p expected answer).outcome ≠ .generationFailure reason := by
  rw [judge.eq_def]
  split
  · rw [Comparator.compare]
    split
    · nofun
    · dsimp only
      split
      · nofun
      · nofun
  · nofun
  · nofun

/-- A point without an expected output is one on which the oracle fails. -/
theorem oracle_of_generationFailure {reason : String} (hexpand : t.expand p = .ok kernel)
    (h : (r.runPoint t p).outcome = .generationFailure reason) :
    ∃ e, r.oracle.expectedOutput p = .error e ∧ reason = e.message := by
  cases horacle : r.oracle.expectedOutput p with
  | ok expected =>
      rw [runPoint_of_ok hexpand horacle] at h
      exact absurd h (judge_outcome_ne reason)
  | error e =>
      rw [runPoint_of_oracle_error hexpand horacle] at h
      cases h
      exact ⟨e, rfl, rfl⟩

end Point

end Runner

/-! ### Names of workers -/

/-- Whether a worker can be named after the entry point of a template. -/
def Template.isNameable (t : Template) : Bool := t.entry.toList.all (· != '\x00')

theorem Template.isNameable_eq_false {t : Template} :
    t.isNameable = false ↔ '\x00' ∈ t.entry.toList := by
  simp [isNameable]

theorem Template.entry_of_expand {t : Template} {p : Point} {kernel : Kernel}
    (h : t.expand p = .ok kernel) : kernel.entry = t.entry := by
  rw [expand, expandWith] at h
  split at h
  · cases h
  · cases h
    rfl

namespace Runner

variable {r : Runner} {t : Template} {p : Point} {kernel : Kernel}

/-- A worker is named after the entry point of the template. -/
theorem isNameable_callOf (h : t.expand p = .ok kernel) :
    (callOf p kernel).isNameable = t.isNameable := by
  rw [DeviceCall.isNameable, callOf, Template.entry_of_expand h, Template.isNameable]

theorem canCall_of_ok (h : t.expand p = .ok kernel) : canCall t p = t.isNameable := by
  rw [canCall, h]
  exact isNameable_callOf h

theorem canCall_of_isNameable (h : t.isNameable = true) (p : Point) : canCall t p = true := by
  cases hexpand : t.expand p with
  | error e => rw [canCall, hexpand]
  | ok kernel => rw [canCall_of_ok hexpand, h]

/-- **There are workers for a template** if it has no points, is skipped, or has an entry point after
which they can be named. -/
theorem canRun_eq (r : Runner) (t : Template) :
    r.canRun t = ((r.pointsOf t).isEmpty || r.rejects t || t.isNameable) := by
  have hpoints : Matrix.points r.registry t r.config.matrixOptions r.selection = r.pointsOf t := rfl
  rw [canRun, rejects, hpoints]
  cases r.pointsOf t with
  | nil => rfl
  | cons first rest =>
      dsimp only
      cases hexpand : t.expand first with
      | error e => rfl
      | ok kernel =>
          cases hnameable : t.isNameable with
          | true =>
              have hall : (first :: rest).all (canCall t) = true :=
                List.all_eq_true.2 fun p _ => canCall_of_isNameable hnameable p
              simp [hall]
          | false => simp [canCall_of_ok hexpand, hnameable]

/-- A template for which there are no workers has a first point with a kernel. -/
theorem exists_first_of_canRun_eq_false (h : r.canRun t = false) :
    t.isNameable = false ∧ r.rejects t = false ∧
      ∃ p kernel, p ∈ r.pointsOf t ∧ t.expand p = .ok kernel := by
  rw [canRun_eq, Bool.or_eq_false_iff, Bool.or_eq_false_iff] at h
  obtain ⟨⟨hempty, hrejects⟩, hnameable⟩ := h
  refine ⟨hnameable, hrejects, ?_⟩
  cases hpoints : r.pointsOf t with
  | nil =>
      rw [hpoints] at hempty
      cases hempty
  | cons first rest =>
      rw [rejects, hpoints] at hrejects
      cases hexpand : t.expand first with
      | error e => simp [hexpand] at hrejects
      | ok kernel => exact ⟨first, kernel, List.mem_cons_self, hexpand⟩

variable {s : TemplateStore}

theorem run_eq_some {report : Report} :
    r.run s = some report ↔ (∀ t ∈ s.templates, r.canRun t = true) ∧ r.report s = report := by
  rw [run]
  split
  case isTrue hcan => rw [and_iff_right (List.all_eq_true.1 hcan), Option.some_inj]
  case isFalse hcan =>
    rw [List.all_eq_true] at hcan
    simp [hcan]

/-- **When a run breaks down**: there are points to be run, and no worker can be named for them. -/
theorem run_eq_none :
    r.run s = none ↔ ∃ t ∈ s.templates, r.rejects t = false ∧ r.pointsOf t ≠ [] ∧
      '\x00' ∈ t.entry.toList := by
  have hcan : ∀ t, r.canRun t = false ↔
      r.rejects t = false ∧ r.pointsOf t ≠ [] ∧ '\x00' ∈ t.entry.toList := by
    intro t
    rw [canRun_eq, Bool.or_eq_false_iff, Bool.or_eq_false_iff, List.isEmpty_eq_false_iff,
      Template.isNameable_eq_false, and_assoc, and_left_comm]
  rw [run, ite_eq_right_iff]
  simp only [reduceCtorEq, imp_false, Bool.not_eq_true, List.all_eq_false, ← hcan]

end Runner

end Crosscheck
