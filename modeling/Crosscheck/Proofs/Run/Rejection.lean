import Crosscheck.Proofs.Run.Points
import Crosscheck.Proofs.Template.Bindable

/-!
# Crosscheck.Proofs.Run.Rejection

**A warning about an unbound placeholder says exactly what a run will do.** If a template has such a
warning, then it expands for none of its points, and a run rejects it; without one it expands for
all of them. A run looks at the first selected point only, which therefore speaks for the others.
-/

namespace Crosscheck

namespace Runner

variable {r : Runner} {store : TemplateStore} {t : Template} {p : Point}

/-- Whether the validator warns about a placeholder that nothing binds. -/
def warnsUnbound (t : Template) : Bool := t.violations.any (·.rule == "TPL-004")

theorem warnsUnbound_iff : warnsUnbound t = true ↔ ∃ v ∈ t.violations, v.rule = "TPL-004" := by
  simp [warnsUnbound]

theorem expand_eq (hshift : r.registry.ShiftsHaveAmounts) {o : MatrixOptions} {s : Selection}
    (hp : p ∈ Matrix.points r.registry t o s) :
    t.expand p =
      match t.unboundPlaceholders.head? with
      | some name => .error (.unresolvedPlaceholder t.id name)
      | none => .ok ⟨t.entry, String.ofList
          ((MarkerGrammar.placeholder.segments t.text.toList).flatMap
            (Segment.fill (Bindings.ofPoint p).value))⟩ :=
  Template.expandWith_eq (Matrix.names_of_mem_points hshift hp)

/-- Whether a template expands does not depend on the point. -/
theorem exists_error_iff (hshift : r.registry.ShiftsHaveAmounts) {o : MatrixOptions} {s : Selection}
    (hp : p ∈ Matrix.points r.registry t o s) :
    (∃ e, t.expand p = .error e) ↔ ∃ v ∈ t.violations, v.rule = "TPL-004" := by
  rw [Template.exists_violation_iff, expand_eq hshift hp]
  cases t.unboundPlaceholders with
  | nil => simp
  | cons name rest => simp

theorem exists_kernel (hshift : r.registry.ShiftsHaveAmounts) {o : MatrixOptions} {s : Selection}
    (hp : p ∈ Matrix.points r.registry t o s) (h : ¬ ∃ v ∈ t.violations, v.rule = "TPL-004") :
    ∃ kernel, t.expand p = .ok kernel := by
  cases hexpand : t.expand p with
  | ok kernel => exact ⟨kernel, rfl⟩
  | error e => exact absurd ((exists_error_iff hshift hp).1 ⟨e, hexpand⟩) h

theorem warnsUnbound_of_ok (hshift : r.registry.ShiftsHaveAmounts) {o : MatrixOptions} {s : Selection}
    (hp : p ∈ Matrix.points r.registry t o s) {kernel : Kernel} (h : t.expand p = .ok kernel) :
    warnsUnbound t = false := by
  rw [← Bool.not_eq_true, warnsUnbound_iff, ← exists_error_iff hshift hp, h]
  rintro ⟨e, he⟩
  cases he

theorem rejects_eq (hshift : r.registry.ShiftsHaveAmounts) (t : Template) :
    r.rejects t = (!(r.pointsOf t).isEmpty && warnsUnbound t) := by
  rw [rejects]
  cases hcases : r.pointsOf t with
  | nil => rfl
  | cons first rest =>
      have hfirst : first ∈ r.pointsOf t := hcases ▸ List.mem_cons_self
      dsimp only
      cases hexpand : t.expand first with
      | error e =>
          rw [warnsUnbound_iff.2 ((exists_error_iff hshift hfirst).1 ⟨e, hexpand⟩)]
          rfl
      | ok kernel =>
          rw [warnsUnbound_of_ok hshift hfirst hexpand]
          rfl

/-- **The warning about unbound placeholders predicts expansion.** In every catalog whose shifts
have amounts, the names that a point of a matrix binds are those that the validator takes the class
to bind. So expansion fails on a point if and only if the template breaks the rule `TPL-004`, and
what it names is the placeholder of the first violation; it fails on all points of a template or on
none. A run rejects the templates that have selected points and break the rule, and where a point
ends without a kernel or an expected output, it is the oracle that had none. -/
theorem expansion_of_violations (r : Runner) (hshift : r.registry.ShiftsHaveAmounts) :
    (∀ (t : Template) (o : MatrixOptions) (selection : Selection),
      let points := Matrix.points r.registry t o selection
      (∀ p ∈ points,
        (Bindings.ofPoint p).names = Bindings.bindableNames t.shape ∧
        ((∃ e, t.expand p = .error e) ↔ ∃ v ∈ t.violations, v.rule = "TPL-004") ∧
        ∀ v, t.violations.find? (·.rule == "TPL-004") = some v →
          ∃ name, v = t.unboundWarning name ∧
            t.expand p = .error (.unresolvedPlaceholder t.id name)) ∧
      ((∀ p ∈ points, ∃ e, t.expand p = .error e) ∨ ∀ p ∈ points, ∃ kernel, t.expand p = .ok kernel)) ∧
    ∀ store : TemplateStore,
      (r.report store).rejected.map (·.template) =
        (store.templates.filter fun t =>
          !(r.pointsOf t).isEmpty && t.violations.any (·.rule == "TPL-004")).map (·.id) ∧
      ∀ result ∈ (r.report store).results, ∀ reason, result.outcome = .generationFailure reason →
        ∃ t ∈ store.templates, ∃ p ∈ r.pointsOf t, result.point = p.key ∧
          (∃ kernel, t.expand p = .ok kernel) ∧
          ∃ e, r.oracle.expectedOutput p = .error e ∧ reason = e.message := by
  refine ⟨fun t o selection => ⟨fun p hp => ⟨?_, ?_, ?_⟩, ?_⟩, fun store => ⟨?_, ?_⟩⟩
  · exact Matrix.names_of_mem_points hshift hp
  · exact exists_error_iff hshift hp
  · intro v hv
    rw [Template.find?_violations] at hv
    obtain ⟨name, hname, rfl⟩ := Option.map_eq_some_iff.1 hv
    refine ⟨name, rfl, ?_⟩
    rw [expand_eq hshift hp, hname]
  · by_cases hwarns : ∃ v ∈ t.violations, v.rule = "TPL-004"
    · exact .inl fun p hp => (exists_error_iff hshift hp).2 hwarns
    · exact .inr fun p hp => exists_kernel hshift hp hwarns
  · rw [templates_rejected_report]
    exact congrArg (fun f => (store.templates.filter f).map (·.id)) (funext (rejects_eq hshift))
  · intro result hresult reason hreason
    obtain ⟨t, ht, hrejects, p, hp, rfl⟩ :=
      mem_resultsOf.1 ((perm_results_report r store).mem_iff.1 hresult)
    have hnonempty : (r.pointsOf t).isEmpty = false := by
      rw [List.isEmpty_eq_false_iff]
      exact List.ne_nil_of_mem hp
    -- a template that is not rejected although it has points has no warning
    have hwarns : ¬ ∃ v ∈ t.violations, v.rule = "TPL-004" := by
      rw [← warnsUnbound_iff]
      rw [rejects_eq hshift, hnonempty] at hrejects
      simpa using hrejects
    obtain ⟨kernel, hexpand⟩ := exists_kernel hshift hp hwarns
    exact ⟨t, ht, p, hp, runPoint_point r t p, ⟨kernel, hexpand⟩,
      oracle_of_generationFailure hexpand hreason⟩

/-- A template with a placeholder that nothing binds. -/
def vectorTemplate : Template := ⟨"odd", "odd", .unary, ".entry odd( ) { <OP> %d, <VEC>; }"⟩

theorem expansion_of_violations_vector :
    let r : Runner := ⟨.builtin .clamp, .ofRegistry (.builtin .clamp),
      Emulator.device (.builtin .clamp) 1, RunConfig.standard, Selection.all⟩
    r.registry.ShiftsHaveAmounts ∧
      (∀ p ∈ r.pointsOf vectorTemplate,
        vectorTemplate.expand p = .error (.unresolvedPlaceholder "odd" "VEC")) ∧
      (r.report ⟨[vectorTemplate]⟩).rejected.map (·.template) = ["odd"] := by
  intro r
  have hshift : r.registry.ShiftsHaveAmounts := by
    show ∀ op ∈ Operation.builtin, op.shape = .shift → 2 ≤ op.operandCount
    decide
  obtain ⟨hpoints, hrun⟩ := expansion_of_violations r hshift
  have hunbound : vectorTemplate.unboundPlaceholders = ["VEC"] := by decide +kernel
  have hfind : vectorTemplate.violations.find? (·.rule == "TPL-004") =
      some (vectorTemplate.unboundWarning "VEC") := by
    rw [Template.find?_violations, hunbound]
    rfl
  have hkept : (!(r.pointsOf vectorTemplate).isEmpty &&
      vectorTemplate.violations.any (·.rule == "TPL-004")) = true := by
    have hwarns : vectorTemplate.violations.any (·.rule == "TPL-004") = true := by
      rw [← List.isSome_find?, hfind]
      rfl
    rw [hwarns, pointsOf, Matrix.points, List.isEmpty_map]
    decide +kernel
  refine ⟨hshift, fun p hp => ?_, ?_⟩
  · obtain ⟨-, -, hfirst⟩ := (hpoints vectorTemplate r.config.matrixOptions r.selection).1 p hp
    obtain ⟨name, hname, hexpand⟩ := hfirst _ hfind
    obtain rfl := Template.unboundWarning_injective hname
    exact hexpand
  · rw [(hrun ⟨[vectorTemplate]⟩).1]
    show ([vectorTemplate].filter _).map (·.id) = _
    rw [List.filter_cons, if_pos hkept]
    rfl

end Runner

end Crosscheck
