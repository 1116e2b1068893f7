import Crosscheck.Proofs.Report.MatrixOrder
import Crosscheck.Proofs.Report.Summary
import Crosscheck.Proofs.Run.Breakdown
import Crosscheck.Proofs.Template.Loading
import Mathlib.Data.List.Nodup

/-!
# Crosscheck.Proofs.Run.Locality

**What goes wrong with a point stays with the point, as long as workers can be named.** Every order in
which a run by several workers can get to a report gets to the same one (`Runner.reports_iff`). It has
one result for every point that is to be run, which says what the device replied to the point's own
call (`Runner.Recorded`). So devices that differ on some points only have reports that differ on these
points only (`Runner.forall₂_results`).

A point for which no worker can be named does not stay with itself: nothing is reported of any point
of the store.
-/

namespace Crosscheck

/-! ### Points and their keys -/

/-- In a template, the index of a combination says which one it is. -/
theorem Matrix.eq_of_index {r : Registry} {shape : OperationClass} {zeroLength : Bool}
    {c d : Combination} (hc : c ∈ combinations r shape zeroLength)
    (hd : d ∈ combinations r shape zeroLength) (h : c.index = d.index) : c = d := by
  obtain ⟨⟨triple, i⟩, hi, rfl⟩ := List.mem_map.1 hc
  obtain ⟨⟨other, j⟩, hj, rfl⟩ := List.mem_map.1 hd
  obtain rfl : i = j := h
  rw [List.mk_mem_zipIdx_iff_getElem?] at hi hj
  obtain rfl := Option.some.inj (hi.symm.trans hj)
  rfl

namespace Runner

variable {r : Runner} {s : TemplateStore} {t : Template} {p : Point}

/-- The points that are run, template by template. -/
def tasks (r : Runner) (s : TemplateStore) : List Task :=
  (s.templates.filter fun t => !r.rejects t).flatMap fun t => (r.pointsOf t).map (⟨t, ·⟩)

theorem map_tasks (r : Runner) (s : TemplateStore) :
    (r.tasks s).map (·.resultBy r) = r.resultsOf s := by
  rw [tasks, resultsOf, List.map_flatMap]
  refine List.flatMap_congr fun t _ => ?_
  rw [List.map_map]
  rfl

/-- The points that are run, in matrix order. -/
def orderedTasks (r : Runner) (s : TemplateStore) : List Task :=
  (r.tasks s).mergeSort fun a b => a.point.key.notAfter b.point.key

/-- A report has a result for every point that is run, in matrix order. -/
theorem results_report (r : Runner) (s : TemplateStore) :
    (r.report s).results = (r.orderedTasks s).map (·.resultBy r) := by
  have hsorted : (r.report s).results =
      (r.resultsOf s).mergeSort fun a b => a.point.notAfter b.point := by
    rw [← flatMap_resultList]
    rfl
  rw [hsorted, ← map_tasks, orderedTasks]
  refine (List.map_mergeSort fun a _ b _ => ?_).symm
  rw [Task.resultBy, Task.resultBy, runPoint_point, runPoint_point]

theorem distinct_resultsOf (r : Runner) (hids : (s.templates.map (·.id)).Nodup) :
    Report.Distinct (r.resultsOf s) := by
  intro a ha b hb htemplate hindex
  obtain ⟨t, ht, -, p, hp, rfl⟩ := mem_resultsOf.1 ha
  obtain ⟨u, hu, -, q, hq, rfl⟩ := mem_resultsOf.1 hb
  rw [runPoint_point, runPoint_point] at htemplate hindex
  obtain ⟨c, hc, rfl⟩ := List.mem_map.1 hp
  obtain ⟨d, hd, rfl⟩ := List.mem_map.1 hq
  obtain rfl : t = u := List.inj_on_of_nodup_map hids ht hu htemplate
  rw [Matrix.selected] at hc hd
  split at hc
  case isTrue hadmits =>
    rw [if_pos hadmits] at hd
    rw [Matrix.eq_of_index (List.mem_filter.1 hc).1 (List.mem_filter.1 hd).1 hindex]
  case isFalse => cases hc

/-- A report says of a template whether it is rejected. -/
theorem contains_rejected (hids : (s.templates.map (·.id)).Nodup) (ht : t ∈ s.templates) :
    ((r.report s).rejected.map (·.template)).contains t.id = r.rejects t := by
  rw [templates_rejected_report, Bool.eq_iff_iff, List.contains_iff_mem, List.mem_map]
  constructor
  · rintro ⟨u, hu, heq⟩
    obtain ⟨hu, hrejects⟩ := List.mem_filter.1 hu
    rwa [← List.inj_on_of_nodup_map hids hu ht heq]
  · intro hrejects
    exact ⟨t, List.mem_filter.2 ⟨ht, hrejects⟩, rfl⟩

/-! ### All orders of events end in one report -/

/-- A report in which some order of events can end. -/
def Reports (r : Runner) (s : TemplateStore) (report : Report) : Prop :=
  ∃ workers limit es crew, 0 < workers ∧
    (Crew.start limit s.templates).run r workers es = some crew ∧ crew.report = some report

theorem reports_iff (htime : r.config.timeout.isZero = false)
    (hids : (s.templates.map (·.id)).Nodup) {report : Report} :
    r.Reports s report ↔ r.run s = some report := by
  have hreported : ∀ {workers limit es crew other},
      (Crew.start limit s.templates).run r workers es = some crew →
      crew.report = some other → r.run s = some other := by
    intro workers limit es crew other hrun hother
    have hsound := (Crew.Sound.start r limit s.templates).run htime hrun
    refine run_eq_some.2 ⟨fun t ht => Crew.Sound.canRun_of_report htime hrun hother ht, ?_⟩
    obtain ⟨results, hresults, rfl⟩ := hsound.report_eq hother
    -- the results came in in another order, perhaps
    have hdistinct : Report.Distinct ((s.templates.map r.runTemplate).flatMap (·.resultList)) :=
      r.flatMap_resultList s ▸ r.distinct_resultsOf hids
    exact Report.ofResults_perm hresults.symm hdistinct _ _
  constructor
  · rintro ⟨workers, limit, es, crew, -, hcrew, hreport⟩
    exact hreported hcrew hreport
  · intro hrun
    obtain ⟨es, crew, other, hcrew, hother⟩ :=
      Crew.exists_report 1 htime Nat.one_pos (run_eq_some.1 hrun).1
    obtain rfl : report = other :=
      Option.some.inj (hrun.symm.trans (hreported hcrew hother))
    exact ⟨1, 1, es, crew, Nat.one_pos, hcrew, hother⟩

/-- Who breaks down in some order of events belongs to a run without a report. -/
theorem run_eq_none_of_brokenDown {workers limit : Nat} {es : List CrewEvent} {crew : Crew}
    (htime : r.config.timeout.isZero = false)
    (hcrew : (Crew.start limit s.templates).run r workers es = some crew)
    (hbroken : crew.brokenDown = true) : r.run s = none := by
  cases hrun : r.run s with
  | none => rfl
  | some report =>
      have hclear : (Crew.start limit s.templates).Clear r [] :=
        .start limit (List.append_nil s.templates).symm (run_eq_some.1 hrun).1
      have hintact := (hclear.run htime (.start r limit s.templates) hcrew).intact
      rw [hbroken] at hintact
      cases hintact

/-! ### What is recorded of a point -/

/-- What is recorded of a point: of the device nothing but its reply to the point's own call. -/
inductive Recorded (r : Runner) (t : Template) (p : Point) : TestResult → Prop
  | noKernel {e : CheckError} :
      t.expand p = .error e → Recorded r t p (.generationFailure p e.message)
  | noExpected {kernel : Kernel} {e : CheckError} :
      t.expand p = .ok kernel → r.oracle.expectedOutput p = .error e →
      Recorded r t p (.generationFailure p e.message)
  | compared {kernel : Kernel} {expected actual : Buffer} {returned : List Buffer} :
      t.expand p = .ok kernel → r.oracle.expectedOutput p = .ok expected →
      r.device.reply (callOf p kernel) = .buffers returned →
      checkOutputs [p.outputSpec] returned = .ok [actual] →
      Recorded r t p (r.config.comparator.compare p expected actual)
  | unusable {kernel : Kernel} {expected : Buffer} {returned : List Buffer}
      {failure : ExecutionFailure} :
      t.expand p = .ok kernel → r.oracle.expectedOutput p = .ok expected →
      r.device.reply (callOf p kernel) = .buffers returned →
      checkOutputs [p.outputSpec] returned = .error failure →
      Recorded r t p (.executionFailure p failure.message)
  | failed {kernel : Kernel} {expected : Buffer} {cause : ExecutionFailure} :
      t.expand p = .ok kernel → r.oracle.expectedOutput p = .ok expected →
      r.device.reply (callOf p kernel) = .failure cause →
      Recorded r t p (.executionFailure p cause.message)
  | brokeDown {kernel : Kernel} {expected : Buffer} :
      t.expand p = .ok kernel → r.oracle.expectedOutput p = .ok expected →
      r.device.reply (callOf p kernel) = .breakdown →
      Recorded r t p (.executionFailure p ExecutionFailure.disconnected.message)

/-- Of a single output there is one buffer, or a failure. -/
theorem checkOutputs_singleton {spec : BufferSpec} {returned outputs : List Buffer}
    (h : checkOutputs [spec] returned = .ok outputs) : ∃ actual, outputs = [actual] := by
  rw [checkOutputs] at h
  split at h
  case h_1 => cases h
  case h_2 =>
    split at h
    case h_1 => cases h
    case h_2 found _ =>
      obtain ⟨-, -, h⟩ := Except.bind_eq_ok.1 h
      obtain ⟨rest, hrest, h⟩ := Except.bind_eq_ok.1 h
      cases hrest
      cases h
      exact ⟨_, rfl⟩

theorem recorded_runPoint (htime : r.config.timeout.isZero = false) (t : Template) (p : Point) :
    r.Recorded t p (r.runPoint t p) := by
  cases hexpand : t.expand p with
  | error e =>
      rw [runPoint_of_error hexpand]
      exact .noKernel hexpand
  | ok kernel =>
      cases horacle : r.oracle.expectedOutput p with
      | error e =>
          rw [runPoint_of_oracle_error hexpand horacle]
          exact .noExpected hexpand horacle
      | ok expected =>
          rw [runPoint_of_ok hexpand horacle, execute, if_neg (by simp [htime]), Device.submit]
          cases hreply : r.device.reply (callOf p kernel) with
          | failure cause => exact .failed hexpand horacle hreply
          | breakdown => exact .brokeDown hexpand horacle hreply
          | buffers returned =>
              dsimp only
              cases hcheck : checkOutputs (callOf p kernel).outputs returned with
              | error failure => exact .unusable hexpand horacle hreply hcheck
              | ok outputs =>
                  obtain ⟨actual, rfl⟩ := checkOutputs_singleton hcheck
                  exact .compared hexpand horacle hreply hcheck

/-! ### Two devices -/

/-- A device matters to a point by its reply to the call for the point. -/
theorem runPoint_congr {d : Device}
    (h : ∀ kernel, t.expand p = .ok kernel →
      d.reply (callOf p kernel) = r.device.reply (callOf p kernel)) :
    { r with device := d }.runPoint t p = r.runPoint t p := by
  cases hexpand : t.expand p with
  | error e => rw [runPoint_of_error hexpand, runPoint_of_error hexpand]
  | ok kernel =>
      have hsubmit : d.submit (callOf p kernel) = r.device.submit (callOf p kernel) := by
        rw [Device.submit_eq, Device.submit_eq, h kernel hexpand]
      cases horacle : r.oracle.expectedOutput p with
      | error e =>
          rw [runPoint_of_oracle_error hexpand horacle]
          exact runPoint_of_oracle_error (r := { r with device := d }) hexpand horacle
      | ok expected =>
          rw [runPoint_of_ok hexpand horacle,
            runPoint_of_ok (r := { r with device := d }) hexpand horacle, execute, execute, hsubmit]
          rfl

/-- What two devices have to have in common for their reports to be the same outside some points. -/
def AgreeOutside (r : Runner) (s : TemplateStore) (d : Device) (inside : PointKey → Bool) : Prop :=
  ∀ task ∈ r.tasks s, inside task.point.key = false →
    ∀ kernel, task.template.expand task.point = .ok kernel →
      d.reply (callOf task.point kernel) = r.device.reply (callOf task.point kernel)

/-- Both reports have results for the same points, and equal ones outside. -/
theorem forall₂_results {d : Device} {inside : PointKey → Bool} (h : r.AgreeOutside s d inside) :
    List.Forall₂ (fun a b => a.point = b.point ∧ (inside a.point = false → a = b))
      (r.report s).results ({ r with device := d }.report s).results := by
  have hordered : { r with device := d }.orderedTasks s = r.orderedTasks s := rfl
  rw [results_report, results_report, hordered, List.forall₂_map_left_iff, List.forall₂_map_right_iff,
    List.forall₂_same]
  intro task htask
  rw [Task.resultBy, Task.resultBy, runPoint_point, runPoint_point]
  refine ⟨rfl, fun hinside => ?_⟩
  exact (runPoint_congr (h task (List.mem_mergeSort.1 htask) hinside)).symm

/-- Lists that are equal outside have the same elements outside. -/
theorem filter_outside_eq {inside : PointKey → Bool} {as bs : List TestResult}
    (h : List.Forall₂ (fun a b => a.point = b.point ∧ (inside a.point = false → a = b)) as bs) :
    as.filter (fun a => !inside a.point) = bs.filter fun b => !inside b.point := by
  induction h with
  | nil => rfl
  | @cons a b as bs hab _ ih =>
      obtain ⟨hpoint, hsame⟩ := hab
      cases hinside : inside a.point with
      | true =>
          rw [List.filter_cons_of_neg (by simp [hinside]),
            List.filter_cons_of_neg (by simp [← hpoint, hinside]), ih]
      | false =>
          obtain rfl : a = b := hsame hinside
          rw [List.filter_cons_of_pos (by simp [hinside]),
            List.filter_cons_of_pos (by simp [hinside]), ih]

/-- Which templates are rejected, and why, has nothing to do with the device. -/
theorem rejected_report (r : Runner) (s : TemplateStore) (d : Device) :
    ({ r with device := d }.report s).rejected = (r.report s).rejected := by
  have htemplate : ∀ t, ({ r with device := d }.runTemplate t).rejectionList =
      (r.runTemplate t).rejectionList := by
    intro t
    have hpoints : { r with device := d }.pointsOf t = r.pointsOf t := rfl
    rw [runTemplate_eq, runTemplate_eq, hpoints]
    cases r.pointsOf t with
    | nil => rfl
    | cons first rest =>
        dsimp only
        cases t.expand first <;> rfl
  show (s.templates.map { r with device := d }.runTemplate).flatMap (·.rejectionList) =
    (s.templates.map r.runTemplate).flatMap (·.rejectionList)
  rw [List.flatMap_map, List.flatMap_map]
  exact List.flatMap_congr fun t _ => htemplate t

/-- **Failures stay local to their point, as long as workers can be named.** Let no deadline pass.

* With any number of workers and of slots, and in any order of events, a run cannot get stuck and
  ends after so many events, with a report or with a breakdown.
* Whether there is a report, and which one, does not depend on any of this: a run that has one in some
  order does not break down in another.
* There is none if and only if a template that is not skipped has a selected point and an entry point
  with a NUL.
* Otherwise it has one result for every selected point of every template that it does not list as
  rejected.
* The result of a point is what is `Recorded` of the device's reply to the point's own call.
* If two devices agree on the calls of all points outside some points, then there is a report for the
  other one too, and the reports have equal results outside these points. The summaries consist of the
  same counts and the counts of the results inside. -/
theorem report_local {ts : List Template} {s : TemplateStore} (r : Runner)
    (hstore : TemplateStore.ofTemplates ts = .ok s) (htime : r.config.timeout.isZero = false) :
    (∀ workers limit es crew, 0 < workers →
      (Crew.start limit s.templates).run r workers es = some crew →
      es.length ≤ 7 * (r.report s).results.length + s.templates.length + (2 * max 1 limit + 3) ∧
        (crew.report = none → crew.brokenDown = false →
          ∃ e, (crew.step r workers e).isSome = true) ∧
        (crew.brokenDown = true → r.run s = none)) ∧
    (∀ report, r.Reports s report ↔ r.run s = some report) ∧
    (r.run s = none ↔ ∃ t ∈ s.templates, r.rejects t = false ∧ r.pointsOf t ≠ [] ∧
      '\x00' ∈ t.entry.toList) ∧
    (∀ t ∈ s.templates, ∀ p ∈ r.pointsOf t, r.Recorded t p (r.runPoint t p)) ∧
    ∀ report, r.run s = some report →
      report.results.Perm
        ((s.templates.filter fun t => !(report.rejected.map (·.template)).contains t.id).flatMap
          fun t => (r.pointsOf t).map (r.runPoint t)) ∧
      ∀ d inside, r.AgreeOutside s d inside →
        let outside :=
          Summary.ofResults (report.results.filter fun a => !inside a.point) report.rejected.length
        let tally (results : List TestResult) :=
          Summary.ofResults (results.filter fun a => inside a.point) 0
        ∃ other, { r with device := d }.run s = some other ∧
          other.rejected = report.rejected ∧
          List.Forall₂ (fun a b => a.point = b.point ∧ (inside a.point = false → a = b))
            report.results other.results ∧
          report.summary = outside.plus (tally report.results) ∧
          other.summary = outside.plus (tally other.results) := by
  have hids := TemplateStore.nodup_ids hstore
  refine ⟨?_, fun report => reports_iff htime hids, run_eq_none,
    fun t _ p _ => recorded_runPoint htime t p, fun report hrun => ?_⟩
  · intro workers limit es crew hworkers hrun
    have hstart := Crew.Sound.start r limit s.templates
    have hlength := hstart.length_le htime hrun
    rw [Crew.work_start, flatMap_resultList] at hlength
    rw [(perm_results_report r s).length_eq]
    refine ⟨hlength, fun hreport hintact =>
      (hstart.run htime hrun).exists_step hworkers hintact hreport, fun hbroken => ?_⟩
    exact run_eq_none_of_brokenDown htime hrun hbroken
  · obtain ⟨hcan, rfl⟩ := run_eq_some.1 hrun
    refine ⟨?_, ?_⟩
    · refine (perm_results_report r s).trans ?_
      rw [resultsOf]
      have hfilter : (s.templates.filter fun t => !r.rejects t) =
          s.templates.filter fun t => !((r.report s).rejected.map (·.template)).contains t.id :=
        List.filter_congr fun t ht => by rw [contains_rejected hids ht]
      rw [hfilter]
    · intro d inside hagree outside tally
      have hrejected := rejected_report r s d
      have hresults := forall₂_results hagree
      -- which workers can be named has nothing to do with the device
      refine ⟨{ r with device := d }.report s, run_eq_some.2 ⟨hcan, rfl⟩, hrejected, hresults, ?_, ?_⟩
      · exact Summary.ofResults_filter (fun a => inside a.point) _ _
      · have houtside : outside = Summary.ofResults
            (({ r with device := d }.report s).results.filter fun a => !inside a.point)
            ({ r with device := d }.report s).rejected.length := by
          rw [hrejected, ← filter_outside_eq hresults]
        rw [houtside]
        exact Summary.ofResults_filter (fun a => inside a.point) _ _

/-- A template with a single instruction. -/
def plainTemplate : Template := ⟨"one", "one", .unary, ".entry one( ) \x7b <OP> %d; \x7d"⟩

/-- A runner for negation on two types. -/
def negations (d : Device) : Runner where
  registry := .builtin .clamp
  oracle := .ofRegistry (.builtin .clamp)
  device := d
  config := { RunConfig.standard with randomSamples := 0 }
  selection := ⟨[], ["s32", "f32"], ["neg"], fun _ => true⟩

/-- A device that is switched off. -/
def switchedOff : Device := ⟨1, fun _ => .failure (.driver "off")⟩

/-- A device that is switched off, and breaks down when it is asked for integers. -/
def brittle : Device where
  concurrency := 2
  reply call :=
    if call.outputs.any (·.type.name == "s32") then .breakdown else .failure (.driver "off")

/-- Two workers and two slots. The second call overtakes the first one, for which the device breaks
down. -/
def overtaking : List CrewEvent :=
  [.enter, .begin, .begin, .call 1 .acquire, .call 0 .acquire, .call 0 .spawn, .call 1 .spawn,
    .call 1 (.reply (.failure (.driver "off"))), .call 1 .drop, .call 1 .send, .conclude 1 .receive,
    .call 0 (.reply .breakdown), .call 0 .drop, .call 0 .disconnect, .conclude 0 .notice,
    .drain .await, .drain .collect, .drain .collect, .drain .idle, .drain .giveBack,
    .drain .giveBack, .drain .finish]

theorem report_local_overtaking :
    let r := negations brittle
    let s : TemplateStore := ⟨[plainTemplate]⟩
    TemplateStore.ofTemplates [plainTemplate] = .ok s ∧ r.config.timeout.isZero = false ∧
      ∃ report other, r.run s = some report ∧ (negations switchedOff).run s = some other ∧
        (∃ crew, (Crew.start 2 s.templates).run r 2 overtaking = some crew ∧
          crew.results.map (·.point.type) = ["f32", "s32"] ∧ crew.report = some report) ∧
        (report.results.map fun a => (a.point.type, a.outcome)).Perm
          [("s32", .executionFailure "driver terminated without a response"),
            ("f32", .executionFailure "driver error: off")] ∧
        List.Forall₂ (fun a b => a.point = b.point ∧ ((a.point.type == "s32") = false → a = b))
          report.results other.results := by
  intro r s
  have hstore : TemplateStore.ofTemplates [plainTemplate] = .ok s := by
    have hnone : TemplateStore.offence? [] [plainTemplate] = none := by decide +kernel
    rw [TemplateStore.ofTemplates, hnone]
  have htime : r.config.timeout.isZero = false := by decide
  obtain ⟨-, hreports, hbreaks, -, hrun⟩ := report_local r hstore htime
  have hnone : r.run s ≠ none := by
    rw [ne_eq, hbreaks]
    rintro ⟨t, ht, -, -, hnul⟩
    obtain rfl := List.mem_singleton.1 ht
    exact absurd hnul (by decide)
  obtain ⟨report, hreport⟩ := Option.ne_none_iff_exists'.1 hnone
  have hagree : r.AgreeOutside s switchedOff fun k => k.type == "s32" := by
    intro task _ hinside kernel _
    have hother : ([task.point.outputSpec].any fun spec => spec.type.name == "s32") = false := by
      rw [List.any_cons, List.any_nil, Bool.or_false]
      exact hinside
    show switchedOff.reply _ = if [task.point.outputSpec].any _ then _ else _
    rw [hother]
    rfl
  obtain ⟨other, hother, -, hresults, -⟩ := (hrun report hreport).2 switchedOff _ hagree
  refine ⟨hstore, htime, report, other, hreport, hother, ?_, ?_, hresults⟩
  · have hcrew : ((Crew.start 2 s.templates).run r 2 overtaking).any (fun crew =>
        crew.report.isSome && crew.results.map (·.point.type) == ["f32", "s32"]) = true := by
      decide +kernel
    obtain ⟨crew, hovertaking, hcrew⟩ := (Option.any_eq_true _ _).1 hcrew
    rw [Bool.and_eq_true] at hcrew
    obtain ⟨found, hfound⟩ := Option.isSome_iff_exists.1 hcrew.1
    have hsame := (hreports found).1 ⟨2, 2, _, crew, Nat.two_pos, hovertaking, hfound⟩
    obtain rfl : report = found := Option.some.inj (hreport.symm.trans hsame)
    exact ⟨crew, hovertaking, eq_of_beq hcrew.2, hfound⟩
  · have hpoints : ((r.resultsOf s).map fun a => (a.point.type, a.outcome)) =
        [("s32", .executionFailure "driver terminated without a response"),
          ("f32", .executionFailure "driver error: off")] := by
      decide +kernel
    obtain ⟨-, rfl⟩ := run_eq_some.1 hreport
    rw [← hpoints]
    exact (perm_results_report r s).map _

/-- A template with a NUL in its entry point. -/
def nulTemplate : Template := ⟨"t", "k\x00", .unary, ".entry k\x00( ) \x7b <OP> %d; \x7d"⟩

/-- **A single point can take all results with it.** The store accepts the template, its points have
kernels, and whoever makes the first call breaks down with it. There is no report of any point. -/
theorem run_nulTemplate :
    let r := negations switchedOff
    let s : TemplateStore := ⟨[nulTemplate, plainTemplate]⟩
    TemplateStore.ofTemplates [nulTemplate, plainTemplate] = .ok s ∧
      r.config.timeout.isZero = false ∧
      (∀ t ∈ s.templates, r.rejects t = false ∧ (r.pointsOf t).length = 2) ∧
      r.run s = none ∧ (∀ report, ¬ r.Reports s report) ∧
      ∃ crew, (Crew.start 1 s.templates).run r 1
          [.enter, .begin, .call 0 .acquire, .breakDown 0] = some crew ∧
        crew.brokenDown = true := by
  intro r s
  have hstore : TemplateStore.ofTemplates [nulTemplate, plainTemplate] = .ok s := by
    have hnone : TemplateStore.offence? [] [nulTemplate, plainTemplate] = none := by decide +kernel
    rw [TemplateStore.ofTemplates, hnone]
  have htime : r.config.timeout.isZero = false := by decide
  have hrun : r.run s = none := by decide +kernel
  refine ⟨hstore, htime, by decide +kernel, hrun, fun report hreport => ?_, ?_⟩
  · rw [reports_iff htime (TemplateStore.nodup_ids hstore), hrun] at hreport
    cases hreport
  · have hcrew : ((Crew.start 1 s.templates).run r 1
        [.enter, .begin, .call 0 .acquire, .breakDown 0]).any (·.brokenDown) = true := by
      decide +kernel
    exact (Option.any_eq_true _ _).1 hcrew

end Runner

end Crosscheck
