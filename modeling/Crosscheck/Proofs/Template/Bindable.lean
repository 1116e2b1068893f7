import Crosscheck.Proofs.Matrix.Hosted
import Crosscheck.Proofs.Order
import Crosscheck.Template.Validation

/-!
# Crosscheck.Proofs.Template.Bindable

**The names that a class can bind are the names that its points do bind.** They are listed twice: by
the validator from the class of a template, and by expansion from a point, where the shift amount's
names hang on the second input buffer and the field's names on an option. On the points of a matrix
the two lists are equal (`names_of_mem_points`), so the placeholders the validator warns about are
those that stop expansion (`expandWith_eq`).
-/

namespace Crosscheck

namespace Bindings

variable {b : Bindings} {name start : String} {p : Point}

/-! ### Bound names -/

theorem mem_names_iff : name ∈ b.names ↔ (b.get? name).isSome = true := by
  rw [names, mem_ascendingTexts, get?]
  induction b.entries with
  | nil => simp
  | cons e entries ih =>
      obtain ⟨key, value⟩ := e
      rw [List.map_cons, List.mem_cons, List.lookup_cons]
      by_cases h : name = key
      · simp [h]
      · have hbeq : (name == key) = false := by simpa using h
        rw [hbeq, ih]
        simp [h]

theorem mem_names_bind (key value : String) :
    name ∈ (b.bind key value).names ↔ name = key ∨ name ∈ b.names := by
  rw [mem_names_iff, mem_names_iff, get?_bind]
  by_cases h : name = key
  · simp [h]
  · simp [h]

theorem mem_names_bindType (t : ElementType) :
    name ∈ (b.bindType start t).names ↔ name ∈ typeNames start ∨ name ∈ b.names := by
  simp only [bindType, mem_names_bind, typeNames, List.map_cons, List.map_nil, List.mem_cons,
    List.not_mem_nil]
  tauto

theorem mem_names_bindField (f : BitField) :
    name ∈ (b.bindField f).names ↔ name ∈ ["POS", "LEN"] ∨ name ∈ b.names := by
  simp only [bindField, mem_names_bind, List.mem_cons, List.not_mem_nil]
  tauto

/-- The names that are bound for a class, given whether a shift amount and a field are at hand. -/
def BoundFor (shape : OperationClass) (field : Bool) (name : String) : Prop :=
  (name = "OP" ∨ name ∈ typeNames "") ∨ (shape = .shift ∧ name ∈ typeNames shiftPrefix) ∨
    (field = true ∧ name ∈ ["POS", "LEN"])

theorem mem_names_ofPoint
    (hamount : p.operation.shape = .shift → ∃ amount, p.inputs[1]? = some amount) :
    name ∈ (ofPoint p).names ↔ BoundFor p.operation.shape p.bitField.isSome name := by
  have htyped : name ∈ ((empty.bindType "" p.type).bindOpcode p.operation p.type).names ↔
      name = "OP" ∨ name ∈ typeNames "" := by
    rw [bindOpcode, mem_names_bind, mem_names_bindType, mem_names_iff, get?_empty]
    simp
  rw [ofPoint, BoundFor, ← htyped]
  generalize (empty.bindType "" p.type).bindOpcode p.operation p.type = typed
  by_cases hshape : p.operation.shape = .shift
  · obtain ⟨amount, hget⟩ := hamount hshape
    cases p.bitField with
    | none =>
        simp only [hshape, hget, if_true, mem_names_bindType, Option.isSome_none, true_and,
          Bool.false_eq_true, false_and, or_false]
        exact or_comm
    | some f =>
        simp only [hshape, hget, if_true, mem_names_bindField, mem_names_bindType, Option.isSome_some,
          true_and, or_comm, or_left_comm]
  · cases p.bitField with
    | none =>
        simp only [hshape, if_false, Option.isSome_none, false_and, Bool.false_eq_true, or_false]
    | some f =>
        simp only [hshape, if_false, mem_names_bindField, Option.isSome_some, true_and, false_and,
          false_or, or_comm]

theorem mem_bindableNames {shape : OperationClass} :
    name ∈ bindableNames shape ↔ BoundFor shape shape.hasBitField name := by
  rw [bindableNames, mem_ascendingTexts, List.mem_append, List.mem_append, List.mem_cons, BoundFor,
    or_assoc]
  refine or_congr Iff.rfl (or_congr ?_ ?_)
  · split
    · simp only [*, true_and]
      rfl
    · simp [*]
  · split
    · simp [*]
    · simp [*]

/-- The names that a point binds are those that its class can bind. -/
theorem names_ofPoint (hamount : p.operation.shape = .shift → ∃ amount, p.inputs[1]? = some amount)
    (hfield : p.bitField.isSome = p.operation.shape.hasBitField) :
    (ofPoint p).names = bindableNames p.operation.shape := by
  refine ascendingTexts_congr fun name => ?_
  have hpoint : name ∈ (ofPoint p).names ↔ BoundFor p.operation.shape p.bitField.isSome name :=
    mem_names_ofPoint hamount
  rw [names, mem_ascendingTexts, hfield] at hpoint
  rw [hpoint, ← mem_bindableNames, bindableNames, mem_ascendingTexts]

end Bindings

/-! ### Points of a matrix -/

/-- Every shift of the catalog has a second operand, the amount. -/
def Registry.ShiftsHaveAmounts (r : Registry) : Prop :=
  ∀ op ∈ r.operations, op.shape = .shift → 2 ≤ op.operandCount

theorem Inputs.exists_second {op : Operation} (h : 2 ≤ op.operandCount) (t : ElementType) (seed : Word)
    (samples : Nat) : ∃ amount, (buffersOf op t seed samples)[1]? = some amount := by
  have hlength : 1 < (buffersOf op t seed samples).length := by
    simp only [buffersOf, operandTypes, inputNames, List.length_map, List.length_zipIdx,
      List.length_zip, List.length_range, List.length_cons, List.length_nil]
    omega
  exact ⟨_, List.getElem?_eq_getElem hlength⟩

/-- **The two lists of names agree** on the points of every matrix. -/
theorem Matrix.names_of_mem_points {r : Registry} {t : Template} {o : MatrixOptions} {s : Selection}
    {p : Point} (hshift : r.ShiftsHaveAmounts) (hp : p ∈ points r t o s) :
    (Bindings.ofPoint p).names = Bindings.bindableNames t.shape := by
  obtain ⟨c, hc, rfl⟩ := List.mem_map.1 hp
  obtain ⟨⟨hop, hshape⟩, -, hfield⟩ := mem_triples.1 (mem_triples_of_mem_selected hc)
  have hsome : c.bitField.isSome = c.operation.shape.hasBitField := by
    rw [hshape]
    exact isSome_of_mem_fieldsOf hfield
  have hamount : c.operation.shape = .shift →
      ∃ amount, (materialize t o c).inputs[1]? = some amount :=
    fun h => Inputs.exists_second (hshift _ hop h) _ _ _
  rw [← hshape]
  exact Bindings.names_ofPoint hamount hsome

/-! ### Warnings and expansion -/

namespace Template

variable {t : Template} {b : Bindings} {name : String}

/-- What the validator says about a placeholder that nothing binds. -/
def unboundWarning (t : Template) (name : String) : Violation :=
  ⟨.warning, "TPL-004",
    t.id ++ ": <" ++ name ++ "> has no binding for " ++ t.shape.name
      ++ " templates; expansion will fail",
    some t.id⟩

/-- The placeholder can be read off the warning. -/
theorem unboundWarning_injective {other : String} (h : t.unboundWarning name = t.unboundWarning other) :
    name = other := by
  have hmessage := congrArg Violation.message h
  simpa [unboundWarning, String.append_left_inj, String.append_right_inj] using hmessage

theorem rule_of_mem_identityViolations {v : Violation} (h : v ∈ t.identityViolations) :
    v.rule ∈ ["TPL-006", "TPL-007"] := by
  rw [identityViolations] at h
  rcases List.mem_append.1 h with h | h
  · split at h
    · obtain rfl := List.mem_singleton.1 h
      simp
    · cases h
  · split at h
    · obtain rfl := List.mem_singleton.1 h
      simp
    · cases h

theorem rule_of_mem_textViolations {v : Violation} (h : v ∈ t.textViolations) :
    v.rule ∈ ["TPL-001", "TPL-002", "TPL-003", "TPL-009"] := by
  rw [textViolations] at h
  split at h
  · obtain rfl := List.mem_singleton.1 h
    simp
  · rcases List.mem_append.1 h with h | h
    · rcases List.mem_append.1 h with h | h
      · split at h
        · cases h
        · obtain rfl := List.mem_singleton.1 h
          simp
      · split at h
        · obtain rfl := List.mem_singleton.1 h
          simp
        · cases h
    · obtain ⟨name, -, rfl⟩ := List.mem_map.1 h
      simp

theorem rule_of_mem_bindingViolations {v : Violation} (h : v ∈ t.bindingViolations) :
    v.rule ∈ ["TPL-004", "TPL-005"] := by
  rw [bindingViolations] at h
  rcases List.mem_append.1 h with h | h
  · obtain ⟨name, -, rfl⟩ := List.mem_map.1 h
    simp
  · split at h
    · obtain rfl := List.mem_singleton.1 h
      simp
    · cases h

/-- The rule on bindings is broken by unbound placeholders only, and in their order. -/
theorem find?_violations (t : Template) :
    t.violations.find? (·.rule == "TPL-004") = t.unboundPlaceholders.head?.map t.unboundWarning := by
  -- the other rules have other names
  have hidentity : t.identityViolations.find? (·.rule == "TPL-004") = none := by
    rw [List.find?_eq_none]
    intro v hv hrule
    have hmem := rule_of_mem_identityViolations hv
    rw [eq_of_beq hrule] at hmem
    exact absurd hmem (by decide)
  have htext : t.textViolations.find? (·.rule == "TPL-004") = none := by
    rw [List.find?_eq_none]
    intro v hv hrule
    have hmem := rule_of_mem_textViolations hv
    rw [eq_of_beq hrule] at hmem
    exact absurd hmem (by decide)
  rw [violations, List.find?_append, List.find?_append, hidentity, htext, Option.none_or,
    Option.none_or, bindingViolations]
  cases t.unboundPlaceholders with
  | nil =>
      -- what is left is the rule on bit fields
      rw [List.map_nil, List.nil_append]
      split
      · rfl
      · rfl
  | cons name rest => rfl

theorem exists_violation_iff :
    (∃ v ∈ t.violations, v.rule = "TPL-004") ↔ t.unboundPlaceholders ≠ [] := by
  have hfind : (∃ v ∈ t.violations, v.rule = "TPL-004") ↔
      (t.violations.find? (·.rule == "TPL-004")).isSome = true := by
    rw [List.find?_isSome]
    simp only [beq_iff_eq]
  rw [hfind, find?_violations, Option.isSome_map, List.isSome_head?]

/-- Where the bound names are those of the class, expansion stops at the first placeholder that the
validator warns about. -/
theorem expandWith_eq (h : b.names = Bindings.bindableNames t.shape) :
    t.expandWith b =
      match t.unboundPlaceholders.head? with
      | some name => .error (.unresolvedPlaceholder t.id name)
      | none => .ok ⟨t.entry, String.ofList
          ((MarkerGrammar.placeholder.segments t.text.toList).flatMap (Segment.fill b.value))⟩ := by
  have hunbound : ∀ name, (b.get? name).isNone = !(Bindings.bindableNames t.shape).contains name := by
    intro name
    rw [← h, ← Option.not_isSome]
    congr 1
    rw [Bool.eq_iff_iff, List.contains_iff_mem, Bindings.mem_names_iff]
  have hfind : t.placeholders.find? (fun name => (b.get? name).isNone) =
      t.unboundPlaceholders.head? := by
    rw [unboundPlaceholders, List.head?_filter]
    exact congrArg (List.find? · t.placeholders) (funext hunbound)
  rw [expandWith, hfind]
  rfl

end Template

end Crosscheck
