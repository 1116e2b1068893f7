import Crosscheck.Matrix.Basic
import Crosscheck.Proofs.Device.Agreement

/-!
# Crosscheck.Proofs.Matrix.Hosted

**The matrix of a bundled template has only points of the catalog.** Whatever the options and the
selection are, a point of it is `Point.Hosted`: operation, type and bit field fit the template, and the
inputs are one column for every operand.
-/

namespace Crosscheck

/-- Numbering the elements of a list is pairing them with what their numbers stand for. -/
theorem map_zipIdx_eq_map_zip {l : List α} {g : Nat → β} {f : α × β → γ} {first count : Nat}
    (h : l.length ≤ count) :
    (l.zipIdx first).map (fun (a, i) => f (a, g i)) =
      (l.zip ((List.range' first count).map g)).map f := by
  induction l generalizing first count with
  | nil => simp
  | cons a l ih =>
      cases count with
      | zero => simp at h
      | succ count =>
          rw [List.zipIdx_cons, List.range'_succ, List.map_cons, List.map_cons, List.zip_cons_cons,
            List.map_cons, ih (by simpa using h)]

namespace Inputs

/-- The columns of the rows of a point. -/
def columnsOf (op : Operation) (t : ElementType) (seed : Word) (samples : Nat) : List (List Word) :=
  (List.range op.operandCount).map fun i => (rowsOf op t seed samples).map fun row => row.getD i 0

theorem buffersOf_eq_ofColumns (op : Operation) (t : ElementType) (seed : Word) (samples : Nat) :
    buffersOf op t seed samples = ofColumns op t (columnsOf op t seed samples) := by
  have hlen : ((operandTypes op t).zip inputNames).length ≤ op.operandCount := by
    rw [List.length_zip, operandTypes, List.length_map, List.length_range]
    omega
  rw [buffersOf, ofColumns, columnsOf, List.range_eq_range']
  exact map_zipIdx_eq_map_zip (g := fun i => (rowsOf op t seed samples).map fun row => row.getD i 0)
    (f := fun x => Buffer.ofWords x.1.2 x.1.1 x.2) hlen

end Inputs

namespace Matrix

variable {r : Registry} {t : Template} {o : MatrixOptions} {s : Selection} {c : Combination}

/-- The points of a class: an operation of the class, a type that it supports, and a bit field where
the class has one. -/
theorem mem_triples {shape : OperationClass} {zeroLength : Bool} {op : Operation}
    {type : ElementType} {field : Option BitField} :
    (op, type, field) ∈ triples r shape zeroLength ↔
      (op ∈ r.operations ∧ op.shape = shape) ∧ (type ∈ r.types ∧ op.supports type = true) ∧
        field ∈ fieldsOf shape type zeroLength := by
  simp only [triples, Registry.operationsIn, List.mem_flatMap, List.mem_map, List.mem_filter,
    beq_iff_eq, Prod.mk.injEq]
  constructor
  · rintro ⟨op', hop, type', htype, field', hfield, rfl, rfl, rfl⟩
    exact ⟨hop, htype, hfield⟩
  · rintro ⟨hop, htype, hfield⟩
    exact ⟨op, hop, type, htype, field, hfield, rfl, rfl, rfl⟩

theorem isSome_of_mem_fieldsOf {shape : OperationClass} {type : ElementType} {zeroLength : Bool}
    {field : Option BitField} (h : field ∈ fieldsOf shape type zeroLength) :
    field.isSome = shape.hasBitField := by
  rw [fieldsOf] at h
  split at h
  · rename_i hfield
    obtain ⟨f, -, rfl⟩ := List.mem_map.1 h
    exact hfield.symm
  · rename_i hfield
    obtain rfl : field = none := by simpa using h
    simpa using hfield

theorem mem_triples_of_mem_selected (h : c ∈ selected r t o s) :
    (c.operation, c.type, c.bitField) ∈ triples r t.shape o.zeroLength := by
  rw [selected] at h
  split at h
  · obtain ⟨⟨⟨op, type, field⟩, i⟩, hmem, rfl⟩ := List.mem_map.1 (List.mem_filter.1 h).1
    exact (List.mem_zipIdx hmem).2.2 ▸ List.getElem_mem _
  · simp at h

/-- **Every selected point of a bundled template is one of the catalog.** -/
theorem hosted_materialize {policy : ShiftPolicy} (ht : t ∈ Template.bundled)
    (h : c ∈ selected (Registry.builtin policy) t o s) :
    ∃ columns, (materialize t o c).Hosted t columns := by
  obtain ⟨⟨hop, hshape⟩, ⟨htype, hsupports⟩, hfield⟩ :=
    mem_triples.1 (mem_triples_of_mem_selected h)
  exact ⟨_, {
    template := ht
    operation := hop
    shape := hshape
    type := htype
    supports := hsupports
    bitField := isSome_of_mem_fieldsOf hfield
    length_columns := by simp [Inputs.columnsOf, materialize]
    inputs := Inputs.buffersOf_eq_ofColumns _ _ _ _ }⟩

end Matrix

end Crosscheck
