import Crosscheck.Proofs.Matrix.Enumeration
import Crosscheck.Proofs.Run.Locality

/-!
# Crosscheck.Proofs.Run.Interleaving

**Reports do not depend on the order in which points finish.** A report puts its results in strict
matrix order if no two of them are for one point. In a run no two are, because templates have
identifiers of their own and the points of a template are numbered (`Runner.nodup_positions_tasks`).
So with every number of workers, every interleaving that comes to a report comes to the one that a run
template by template, point by point gives (`Runner.reports_iff`).
-/

namespace Crosscheck

theorem Matrix.nodup_index_points (r : Registry) (t : Template) (o : MatrixOptions) (s : Selection) :
    ((points r t o s).map (·.index)).Nodup := by
  have hsublist : ((points r t o s).map (·.index)).Sublist
      ((points r t o Selection.all).map (·.index)) := by
    rw [points_eq_filter]
    exact List.filter_sublist.map _
  refine hsublist.nodup ?_
  rw [map_index_points]
  exact List.nodup_range

theorem Matrix.template_of_mem_points {r : Registry} {t : Template} {o : MatrixOptions}
    {s : Selection} {p : Point} (h : p ∈ points r t o s) : p.template = t.id := by
  obtain ⟨c, -, rfl⟩ := List.mem_map.1 h
  rfl

namespace Runner

variable {r : Runner} {s : TemplateStore}

/-- **No two points of a run have a position in common.** -/
theorem nodup_positions_tasks (r : Runner) (hids : (s.templates.map (·.id)).Nodup) :
    ((r.tasks s).map (·.point.key.position)).Nodup := by
  have hposition : ∀ t : Template, ((r.pointsOf t).map (Task.mk t)).map (·.point.key.position) =
      (r.pointsOf t).map fun p => (p.template, p.index) := by
    intro t
    rw [List.map_map]
    rfl
  rw [tasks, List.map_flatMap, funext hposition, List.nodup_flatMap]
  constructor
  · intro t _
    have hindex := Matrix.nodup_index_points r.registry t r.config.matrixOptions r.selection
    refine List.Nodup.of_map Prod.snd ?_
    rw [List.map_map]
    exact hindex
  · -- of two templates already the identifiers are different
    have hids : (s.templates.filter fun t => !r.rejects t).Pairwise fun t u => t.id ≠ u.id :=
      (List.pairwise_map.1 hids).filter _
    refine hids.imp fun {t u} hne => ?_
    simp only [Function.onFun, List.disjoint_left, List.mem_map]
    rintro _ ⟨p, hp, rfl⟩ ⟨q, hq, heq⟩
    have htemplate : q.template = p.template := (Prod.mk.inj heq).1
    rw [Matrix.template_of_mem_points hp, Matrix.template_of_mem_points hq] at htemplate
    exact hne htemplate.symm

/-- Whatever the results of the points of a run are, no two of them have a position in common. -/
theorem nodup_positions_map (r : Runner) (hids : (s.templates.map (·.id)).Nodup)
    {record : Task → TestResult}
    (hrecord : ∀ task ∈ r.tasks s, (record task).point = task.point.key) :
    (((r.tasks s).map record).map (·.point.position)).Nodup := by
  rw [List.map_map]
  have hposition : (r.tasks s).map ((·.point.position) ∘ record) =
      (r.tasks s).map (·.point.key.position) :=
    List.map_congr_left fun task htask => congrArg PointKey.position (hrecord task htask)
  rw [hposition]
  exact r.nodup_positions_tasks hids

theorem nodup_positions_resultsOf (r : Runner) (hids : (s.templates.map (·.id)).Nodup) :
    ((r.resultsOf s).map (·.point.position)).Nodup := by
  rw [← map_tasks]
  exact r.nodup_positions_map hids fun task _ => r.runPoint_point task.template task.point

end Runner

/-- At no time there are two results of one point. -/
theorem Crew.Sound.nodup_positions {r : Runner} {limit : Nat} {s : TemplateStore} {crew : Crew}
    (h : crew.Sound r limit s.templates) (hids : (s.templates.map (·.id)).Nodup) :
    (crew.results.map (·.point.position)).Nodup := by
  obtain ⟨done, lost, htemplates, haccounted⟩ := h.accounted
  have hall := r.nodup_positions_resultsOf hids
  -- the results of the templates that were taken up come first
  rw [← Runner.flatMap_resultList, htemplates, List.map_append, List.flatMap_append, List.map_append,
    ← (haccounted.results.map (·.point.position)).append_right _ |>.nodup_iff, List.map_append] at hall
  exact (List.nodup_append.1 (List.nodup_append.1 hall).1).1

namespace Runner

/-- **Reports do not depend on the order in which points finish.** Results of which no two have
template and index in common make one report, in whatever order they are given; it has these results
in strictly ascending order, and the summary is theirs.

In a run, no two results have template and index in common, whatever the results are. So however they
come in, the report is the same. In particular, let no deadline pass: then, with any number of workers
and slots, whatever order of events ends with a report ends with the report of the run, and if the run
has one, some order does. -/
theorem report_interleaved :
    (∀ seed results rejected, (results.map (·.point.position)).Nodup →
      let report := Report.ofResults seed results rejected
      report.results.Pairwise (fun a b => a.point.Before b.point) ∧
      report.results.Perm results ∧ report.summary = Summary.ofResults results rejected.length ∧
      ∀ others, others.Perm results → Report.ofResults seed others rejected = report) ∧
    ∀ (r : Runner) (ts : List Template) (s : TemplateStore), TemplateStore.ofTemplates ts = .ok s →
      (∀ record : Task → TestResult, (∀ task ∈ r.tasks s, (record task).point = task.point.key) →
        (((r.tasks s).map record).map (·.point.position)).Nodup) ∧
      (∀ results, results.Perm ((r.tasks s).map (·.resultBy r)) →
        Report.ofResults r.config.seed results (r.report s).rejected = r.report s) ∧
      (r.config.timeout.isZero = false → ∀ workers limit, 0 < workers →
        (∀ es crew, (Crew.start limit s.templates).run r workers es = some crew →
          (crew.results.map (·.point.position)).Nodup ∧
          ∀ report, crew.report = some report → r.run s = some report) ∧
        ∀ report, r.run s = some report →
          ∃ es crew, (Crew.start limit s.templates).run r workers es = some crew ∧
            crew.report = some report) := by
  refine ⟨fun seed results rejected h => ?_, fun r ts s hstore => ?_⟩
  · have hperm := Report.perm_results seed results rejected
    have hdistinct := Report.distinct_of_nodup h
    exact ⟨Report.pairwise_before h seed rejected, hperm, Summary.ofResults_perm hperm _,
      fun others hothers => (Report.ofResults_perm hothers.symm hdistinct seed rejected).symm⟩
  · have hids := TemplateStore.nodup_ids hstore
    refine ⟨fun record => r.nodup_positions_map hids, fun results hresults => ?_,
      fun htime workers limit hworkers => ?_⟩
    · rw [map_tasks] at hresults
      rw [← Report.ofResults_perm hresults.symm (r.distinct_resultsOf hids), ← flatMap_resultList]
      rfl
    · have hsame : ∀ {es crew report}, (Crew.start limit s.templates).run r workers es = some crew →
          crew.report = some report → r.run s = some report := fun hcrew hreport =>
        (reports_iff htime hids).1 ⟨workers, limit, _, _, hworkers, hcrew, hreport⟩
      refine ⟨fun es crew hcrew => ⟨?_, fun report => hsame hcrew⟩, fun report hrun => ?_⟩
      · exact ((Crew.Sound.start r limit s.templates).run htime hcrew).nodup_positions hids
      · obtain ⟨es, crew, other, hcrew, hother⟩ :=
          Crew.exists_report limit htime hworkers (run_eq_some.1 hrun).1
        obtain rfl : report = other := Option.some.inj (hrun.symm.trans (hsame hcrew hother))
        exact ⟨es, crew, hcrew, hother⟩

/-- The points of a run finish the other way round, and those of three workers and a single slot in
some order. -/
theorem report_interleaved_reverse :
    let result (template : String) (index : Nat) : TestResult :=
      ⟨⟨index, "", template, "", "", "", none, 0⟩, 1, .pass, none, none⟩
    let r := negations brittle
    let s : TemplateStore := ⟨[plainTemplate]⟩
    Report.ofResults 7 [result "b" 0, result "a" 1, result "a" 0] [] =
        Report.ofResults 7 [result "a" 0, result "b" 0, result "a" 1] [] ∧
      TemplateStore.ofTemplates [plainTemplate] = .ok s ∧
      Report.ofResults r.config.seed ((r.tasks s).map (·.resultBy r)).reverse (r.report s).rejected =
        r.report s ∧
      r.run s = some (r.report s) ∧
      ∃ es crew, (Crew.start 1 s.templates).run r 3 es = some crew ∧
        crew.report = some (r.report s) := by
  intro result r s
  have hstore : TemplateStore.ofTemplates [plainTemplate] = .ok s := by
    have hnone : TemplateStore.offence? [] [plainTemplate] = none := by decide +kernel
    rw [TemplateStore.ofTemplates, hnone]
  have hrun : r.run s = some (r.report s) := by
    refine run_eq_some.2 ⟨fun t ht => ?_, rfl⟩
    obtain rfl := List.mem_singleton.1 ht
    decide +kernel
  obtain ⟨hresults, hruns⟩ := report_interleaved
  obtain ⟨-, hany, hcrew⟩ := hruns r _ s hstore
  refine ⟨?_, hstore, hany _ (List.reverse_perm _), hrun,
    (hcrew (by decide) 3 1 (by decide)).2 _ hrun⟩
  exact (hresults 7 _ [] (by decide)).2.2.2 _ (by decide)

end Runner

end Crosscheck
