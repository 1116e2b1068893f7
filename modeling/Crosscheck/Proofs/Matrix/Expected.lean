import Crosscheck.Proofs.Catalog.Operands
import Crosscheck.Proofs.Matrix.EdgeRows

/-!
# Crosscheck.Proofs.Matrix.Expected

**Every point of the catalog has an expected output.** Points are made of operations on types that they
support, with a bit field if they are operations on fields and an input for every operand, all inputs being
of one length (`Matrix.computable_of_mem_points`). That is what the reference semantics asks for, so the
oracle has a word for each element, and none of them is out of range (`Registry.builtin_total`).
-/

namespace Crosscheck

namespace Point

variable {p : Point}

/-- Inputs of one length are as long as the point. -/
theorem length_eq_of_forall {n : Nat} (h : ∀ b ∈ p.inputs, b.length = n) :
    ∀ b ∈ p.inputs, b.length = p.length := by
  intro b hb
  rw [length]
  cases hinputs : p.inputs with
  | nil => simp [hinputs] at hb
  | cons first rest => exact (h b hb).trans (h first (by simp [hinputs])).symm

@[simp] theorem length_output (p : Point) (policy : ShiftPolicy) :
    (p.output policy).length = p.length := by
  rw [output, Buffer.length_ofWords, List.length_map, rows, Buffer.length_rows]

end Point

namespace Matrix

variable {policy : ShiftPolicy} {t : Template} {o : MatrixOptions} {s : Selection} {p : Point}

/-- **The points of a matrix over the catalog are points that the catalog has an output for**, whatever the
template is. -/
theorem computable_of_mem_points (hp : p ∈ points (Registry.builtin policy) t o s) :
    p.Computable := by
  have hinputs := (inputs_eq_of_mem_points hp).1
  obtain ⟨c, hc, rfl⟩ := List.mem_map.1 hp
  obtain ⟨⟨hop, hshape⟩, ⟨-, hsupports⟩, hfield⟩ := mem_triples.1 (mem_triples_of_mem_selected hc)
  exact {
    operation := hop
    supports := hsupports
    bitField := (isSome_of_mem_fieldsOf hfield).trans (congrArg _ hshape.symm)
    length_inputs := by rw [hinputs, Inputs.buffersOf_eq_map, List.length_map, List.length_range] }

theorem length_of_mem_inputs (hp : p ∈ points (Registry.builtin policy) t o s) :
    ∀ b ∈ p.inputs, b.length = p.length := by
  refine Point.length_eq_of_forall
    (n := Inputs.combinationCount (Inputs.maskedEdges p.operation p.type) + o.samples) fun b hb => ?_
  rw [(inputs_eq_of_mem_points hp).1] at hb
  exact Inputs.length_of_mem_buffersOf hb

end Matrix

namespace Registry

/-- **The reference semantics of the catalog has no gaps**, under either shift policy. For every operation
and every type that it supports, all operands and every bit field: a wrong number of operands is refused
with the expected and the actual number; else a missing field is, of the operations on fields; and else
there is a result, which fits the type. No operand counts that is beyond the expected number. So for every
template, all options and every selection, the oracle has as many words for a point as the point has
elements, which is the length of all its inputs. -/
theorem builtin_total (policy : ShiftPolicy) :
    (∀ op ∈ (builtin policy).operations, ∀ t : ElementType, op.supports t = true →
      ∃ s, (builtin policy).semanticsOf op t = .ok s ∧ (∀ i, s.Reads i → i < op.operandCount) ∧
        ∀ operands field, ∃ v : Word, v.toNat < 2 ^ t.bits ∧ s.apply operands field =
          if operands.length ≠ op.operandCount then
            .error (.operandCount op.kind.title op.operandCount operands.length)
          else if (op.kind = .extract ∨ op.kind = .insert) ∧ field = none then
            .error (.missingBitField op.kind.name)
          else .ok v) ∧
    ∀ t o selection, ∀ p ∈ Matrix.points (builtin policy) t o selection,
      (∀ b ∈ p.inputs, b.length = p.length) ∧
        ∃ out, (Oracle.ofRegistry (builtin policy)).expectedOutput p = .ok out ∧
          out.length = p.length := by
  refine ⟨fun op hop t hs => ?_, fun t o selection p hp => ?_⟩
  · have hbits := Operation.bits_of_supports hop hs
    have hrange : 1 ≤ t.bits ∧ t.bits ≤ 64 := by
      simp only [Operation.allWidths, List.mem_cons, List.not_mem_nil, or_false] at hbits
      omega
    exact ⟨⟨op.kind, op.arity, t, policy⟩, if_pos hs,
      fun i hi => Operation.lt_operandCount_of_reads hop hi, fun operands field =>
        ⟨_, Semantics.value_lt hrange.1 hrange.2 operands field,
          Operation.apply_eq hop hs policy operands field⟩⟩
  · exact ⟨Matrix.length_of_mem_inputs hp, p.output policy,
      (Matrix.computable_of_mem_points hp).expectedOutput policy, p.length_output policy⟩

/-- Extraction from 32 bits, of two operands, without a field, and with a field that starts beyond the word;
and a point of it, with five edge values and three random ones. -/
theorem builtin_total_extract :
    let bfe : Operation := ⟨.extract, "bfe", .unary, .bitFieldExtract, [.unsigned, .signed], [32, 64]⟩
    let u32 := ElementType.ofWidth "u32" 32 .unsigned
    let t : Template := ⟨"x", "k", .bitFieldExtract, ".entry k( ) { <OP> %d; }"⟩
    let o : MatrixOptions := ⟨7, 3, false⟩
    let p := Matrix.materialize t o ⟨0, bfe, u32, some ⟨0, 1⟩⟩
    bfe ∈ (builtin .mask).operations ∧ bfe.supports u32 = true ∧
      (∃ s, (builtin .mask).semanticsOf bfe u32 = .ok s ∧
        s.apply [1, 2] none = .error (.operandCount "Bfe" 1 2) ∧
        s.apply [1] none = .error (.missingBitField "bfe") ∧
        ∃ v : Word, v.toNat < 2 ^ 32 ∧ s.apply [1] (some ⟨0xFFFFFFFF, 0xFFFFFFFF⟩) = .ok v) ∧
      p ∈ Matrix.points (builtin .mask) t o .all ∧
      ∃ out, (Oracle.ofRegistry (builtin .mask)).expectedOutput p = .ok out ∧ out.length = 5 + 3 := by
  intro bfe u32 t o p
  have hop : bfe ∈ (builtin .mask).operations := by decide
  have hs : bfe.supports u32 = true := by decide
  have hp : p ∈ Matrix.points (builtin .mask) t o .all := List.mem_map_of_mem (by decide +kernel)
  obtain ⟨hsemantics, hpoints⟩ := builtin_total .mask
  obtain ⟨s, hsem, -, happly⟩ := hsemantics bfe hop u32 hs
  obtain ⟨-, out, hout, hlength⟩ := hpoints t o .all p hp
  obtain ⟨_, -, htwo⟩ := happly [1, 2] none
  obtain ⟨_, -, hnone⟩ := happly [1] none
  obtain ⟨v, hv, hfield⟩ := happly [1] (some ⟨0xFFFFFFFF, 0xFFFFFFFF⟩)
  have hcount : p.length = 5 + 3 := by decide +kernel
  exact ⟨hop, hs, ⟨s, hsem, htwo, hnone, v, hv, hfield⟩, hp, out, hout, hlength.trans hcount⟩

end Registry

end Crosscheck
