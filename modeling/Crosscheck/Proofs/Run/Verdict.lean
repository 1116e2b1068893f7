import Crosscheck.Proofs.Compare
import Crosscheck.Proofs.Matrix.Hosted
import Crosscheck.Proofs.Run.Points

/-!
# Crosscheck.Proofs.Run.Verdict

**A run of the bundled templates reports exactly the disagreements of oracle and device.** The device
is the emulator over the catalog, under a shift policy of its own, and the semantics of any kinds can be
replaced in the oracle. No template is rejected, every selected point has one result, and the result
counts the elements for which the device's word may not stand for the oracle's: nothing is reported
without a disagreement, and no disagreement is missed.
-/

namespace Crosscheck

namespace Point

variable {p : Point} {t : Template} {columns : List (List Word)}

/-- The words of the two policies differ for shifts only. -/
theorem Hosted.wordAt_policy (h : p.Hosted t columns) {policy other : ShiftPolicy}
    (hagree : policy = other ∨ p.operation.shape ≠ .shift) (i : Nat) :
    p.wordAt policy i = p.wordAt other i := by
  rcases hagree with rfl | hshape
  · rfl
  · obtain ⟨hleft, hright⟩ := Operation.kind_ne_shift h.operation hshape
    exact Semantics.value_policy hleft hright policy other

end Point

namespace Runner

/-- A runner that compares an oracle over the catalog with the emulator. -/
def ofEmulator (oraclePolicy devicePolicy : ShiftPolicy) (replacement? : Replacements)
    (concurrency : Nat) (config : RunConfig) (selection : Selection) : Runner where
  registry := .builtin oraclePolicy
  oracle := ⟨.builtin oraclePolicy, replacement?⟩
  device := Emulator.device (.builtin devicePolicy) concurrency
  config := config
  selection := selection

/-- The result that a point has to get. Its elements are counted for which the device's word may not
stand for the oracle's. -/
structure Verdict (oraclePolicy devicePolicy : ShiftPolicy) (replacement? : Replacements)
    (maxUlp : Word) (p : Point) (result : TestResult) : Prop where
  /-- It is the result of the point. -/
  point : result.point = p.key
  /-- It is about all elements. -/
  elements : result.elements = p.length
  /-- The reference semantics have a word for every element. -/
  defined : ∀ policy, ∀ i < p.length,
    (p.semantics policy).apply (p.operandsAt i) p.bitField = .ok (p.wordAt policy i)
  /-- If all elements are accepted, the point passes. -/
  pass : (∀ i < p.length, Comparator.accepts p.type maxUlp
      (p.expectedAt oraclePolicy replacement? i) (p.wordAt devicePolicy i) = true) →
    result.outcome = .pass
  /-- Otherwise those that are not are counted. -/
  mismatch : ∀ i < p.length, Comparator.accepts p.type maxUlp
      (p.expectedAt oraclePolicy replacement? i) (p.wordAt devicePolicy i) = false →
    ∃ listed, result.outcome = .mismatch
      ((List.range p.length).countP fun i => !Comparator.accepts p.type maxUlp
        (p.expectedAt oraclePolicy replacement? i) (p.wordAt devicePolicy i)) listed
  /-- Without a replacement only shifts under different policies can fail. -/
  agree : replacement? p.operation.kind = none →
    oraclePolicy = devicePolicy ∨ p.operation.shape ≠ .shift → result.outcome = .pass

section Runs

variable {oraclePolicy devicePolicy : ShiftPolicy} {replacement? : Replacements} {concurrency : Nat}
  {config : RunConfig} {selection : Selection} {t : Template} {p : Point}
  {columns : List (List Word)}

/-- What the device returns for a point is its output under the device's policy. -/
theorem execute_ofEmulator (h : p.Hosted t columns) (htime : config.timeout.isZero = false)
    {kernel : Kernel} (hcheck : Addressing.check kernel.source p.inputs [p.outputSpec] = .ok ())
    (hdecode : Emulator.decode (Registry.builtin devicePolicy) kernel.source =
      .ok ⟨p.operation, p.type, p.bitField⟩) :
    (ofEmulator oraclePolicy devicePolicy replacement? concurrency config selection).execute
        ⟨kernel, p.inputs, [p.outputSpec]⟩ = .ok [p.output devicePolicy] := by
  have hlength : p.outputSpec.check (p.output devicePolicy) = .ok () := by
    simp [BufferSpec.check, Point.output_eq, Point.outputSpec]
  have hchecked : checkOutputs [p.outputSpec] [p.output devicePolicy] =
      .ok [p.output devicePolicy] := by
    have hname : (p.output devicePolicy).name = p.outputSpec.name := rfl
    have hdata : Buffer.ofWords p.outputSpec.name p.outputSpec.type
        (p.output devicePolicy).data = p.output devicePolicy :=
      Buffer.ofWords_data outputName outputName p.type _
    simp [checkOutputs, List.findIdx?_cons, hname, hlength, hdata]
  have hreply := h.emulate hcheck devicePolicy hdecode
  simp only [execute, ofEmulator, htime, Device.submit, Emulator.device, hreply,
    DeviceReply.ofResult, hchecked, Bool.false_eq_true, if_false]

/-- **The result of a point.** -/
theorem runPoint_verdict (h : p.Hosted t columns) (htime : config.timeout.isZero = false) :
    Verdict oraclePolicy devicePolicy replacement? config.maxUlp p
      ((ofEmulator oraclePolicy devicePolicy replacement? concurrency config selection).runPoint t p)
      := by
  obtain ⟨kernel, hexpand, hcheck, hdecode⟩ := Point.kernel_of_hosted h
  have hrun : (ofEmulator oraclePolicy devicePolicy replacement? concurrency config
      selection).runPoint t p = config.comparator.compare p
        (Buffer.ofWords outputName p.type
          ((List.range p.length).map (p.expectedAt oraclePolicy replacement?)))
        (Buffer.ofWords outputName p.type
          ((List.range p.length).map (p.wordAt devicePolicy))) := by
    have hexpected : (ofEmulator oraclePolicy devicePolicy replacement? concurrency config
        selection).oracle.expectedOutput p = .ok (Buffer.ofWords outputName p.type
          ((List.range p.length).map (p.expectedAt oraclePolicy replacement?))) :=
      h.computable.expectedOutput_replaced oraclePolicy replacement?
    rw [runPoint, hexpand]
    simp only [hexpected, execute_ofEmulator h htime hcheck (hdecode devicePolicy), judge,
      Point.output_eq]
    rfl
  rw [hrun]
  obtain ⟨hpoint, helements, hpass, hmismatch⟩ := Comparator.compare_ofWords config.comparator p
    outputName (n := p.length) (f := p.expectedAt oraclePolicy replacement?)
    (g := p.wordAt devicePolicy)
  have hall : (∀ i < p.length, Comparator.accepts p.type config.maxUlp
      (p.expectedAt oraclePolicy replacement? i) (p.wordAt devicePolicy i) = true) →
      _ = Outcome.pass := fun hall => hpass (by
    rw [List.countP_eq_zero]
    intro i hi
    simpa [RunConfig.comparator] using hall i (List.mem_range.1 hi))
  refine ⟨hpoint, helements, ?_, hall, ?_, ?_⟩
  · intro policy i hi
    exact h.computable.apply_row policy (Point.operandsAt_mem_rows hi)
  · intro i hi hfail
    refine hmismatch ?_
    rw [← Nat.pos_iff_ne_zero, List.countP_pos_iff]
    exact ⟨i, List.mem_range.2 hi, by simpa [RunConfig.comparator] using hfail⟩
  · intro hnone hagree
    refine hall fun i _ => ?_
    rw [Point.expectedAt, hnone, h.wordAt_policy hagree, Comparator.accepts_self]

/-- A template whose selected points have kernels is run point by point. -/
theorem runTemplate_of_expand (r : Runner) (t : Template)
    (h : ∀ c ∈ Matrix.selected r.registry t r.config.matrixOptions r.selection,
      ∃ kernel, t.expand (Matrix.materialize t r.config.matrixOptions c) = .ok kernel) :
    r.runTemplate t = .results
      ((Matrix.points r.registry t r.config.matrixOptions r.selection).map (r.runPoint t)) := by
  rw [runTemplate, Matrix.points, List.map_map]
  cases hselected : Matrix.selected r.registry t r.config.matrixOptions r.selection with
  | nil => rfl
  | cons first rest =>
      obtain ⟨kernel, hexpand⟩ := h first (hselected ▸ List.mem_cons_self)
      simp only [hexpand]
      rfl

/-- The results of a template: one for every selected point, in order. -/
theorem runTemplate_ofEmulator (ht : t ∈ Template.bundled) :
    let runner :=
      ofEmulator oraclePolicy devicePolicy replacement? concurrency config selection
    runner.runTemplate t = .results
      ((Matrix.points (Registry.builtin oraclePolicy) t config.matrixOptions selection).map
        (runner.runPoint t)) := by
  intro runner
  refine runTemplate_of_expand runner t fun c hc => ?_
  obtain ⟨columns, h⟩ := Matrix.hosted_materialize ht hc
  obtain ⟨kernel, hexpand, -, -⟩ := Point.kernel_of_hosted h
  exact ⟨kernel, hexpand⟩

/-- There are workers for the bundled templates. -/
theorem isNameable_of_bundled : ∀ t ∈ Template.bundled, t.isNameable = true := by decide +kernel

/-- **A run of the bundled templates reports exactly the disagreements.** For every configuration,
selection and pair of shift policies, and for all replacements in the oracle, there is a report, no
template is rejected, and the report has one result for every selected point, which says what `Verdict`
asks for. -/
theorem run_bundled (oraclePolicy devicePolicy : ShiftPolicy) (replacement? : Replacements)
    (concurrency : Nat) (config : RunConfig) (selection : Selection)
    (htime : config.timeout.isZero = false) :
    let runner := ofEmulator oraclePolicy devicePolicy replacement? concurrency config selection
    let points (t : Template) :=
      Matrix.points (Registry.builtin oraclePolicy) t config.matrixOptions selection
    let report := runner.report TemplateStore.bundled
    runner.run TemplateStore.bundled = some report ∧
      report.rejected = [] ∧
      report.results.Perm (Template.bundled.flatMap fun t => (points t).map (runner.runPoint t)) ∧
      ∀ t ∈ Template.bundled, ∀ p ∈ points t,
        Verdict oraclePolicy devicePolicy replacement? config.maxUlp p (runner.runPoint t p) := by
  intro runner points report
  have hresults : (Template.bundled.map runner.runTemplate).flatMap TemplateOutcome.resultList =
      Template.bundled.flatMap fun t => (points t).map (runner.runPoint t) := by
    rw [List.flatMap_map]
    refine List.flatMap_congr fun t ht => ?_
    rw [runTemplate_ofEmulator ht]
    rfl
  have hrejected : (Template.bundled.map runner.runTemplate).flatMap TemplateOutcome.rejectionList =
      [] := by
    rw [List.flatMap_map, List.flatMap_eq_nil_iff]
    intro t ht
    rw [runTemplate_ofEmulator ht]
    rfl
  have hcan : ∀ t ∈ Template.bundled, runner.canRun t = true := fun t ht => by
    rw [canRun_eq, isNameable_of_bundled t ht, Bool.or_true]
  refine ⟨run_eq_some.2 ⟨hcan, rfl⟩, hrejected, ?_, fun t ht p hp => ?_⟩
  · rw [← hresults]
    exact List.mergeSort_perm _ _
  · obtain ⟨c, hc, rfl⟩ := List.mem_map.1 hp
    obtain ⟨columns, h⟩ := Matrix.hosted_materialize ht hc
    exact runPoint_verdict h htime

/-- An oracle that is wrong about sums, against a device that masks shift amounts. -/
theorem run_bundled_wrong_sums :
    let replacement? : Replacements :=
      fun kind => if kind = .add then some WrongSemantics.ones.replacement else none
    let runner := ofEmulator .clamp .mask replacement? 4 RunConfig.standard Selection.all
    let points (t : Template) :=
      Matrix.points (Registry.builtin .clamp) t RunConfig.standard.matrixOptions Selection.all
    let report := runner.report TemplateStore.bundled
    RunConfig.standard.timeout.isZero = false ∧
      runner.run TemplateStore.bundled = some report ∧
      report.rejected = [] ∧
      report.results.Perm
        (Template.bundled.flatMap fun t => (points t).map (runner.runPoint t)) ∧
      ∀ t ∈ Template.bundled, ∀ p ∈ points t,
        Verdict .clamp .mask replacement? RunConfig.standard.maxUlp p (runner.runPoint t p) :=
  ⟨rfl, run_bundled .clamp .mask _ 4 RunConfig.standard Selection.all rfl⟩

end Runs

end Runner

end Crosscheck
