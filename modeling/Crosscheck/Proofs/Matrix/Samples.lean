import Crosscheck.Proofs.Matrix.EdgeRows

/-!
# Crosscheck.Proofs.Matrix.Samples

**More random samples append rows and change nothing else.** Random rows are drawn one after the other
from the stream of the point, so the first ones do not depend on how many follow
(`Inputs.drawRows_isPrefix`). A buffer holds an operand of every row, edge rows first, and thus begins
with what it holds for a smaller number of samples (`Matrix.points_append_samples`).
-/

namespace Crosscheck

/-- A buffer with `n` more values at its end. -/
structure Buffer.ExtendedBy (n : Nat) (b c : Buffer) : Prop where
  /-- The name stays. -/
  name : b.name = c.name
  /-- The type stays. -/
  type : b.type = c.type
  /-- The values stay in front. -/
  data : b.data <+: c.data
  /-- There are `n` more of them. -/
  length : c.length = b.length + n

/-- A point whose buffers have `n` more rows at their ends. -/
structure Point.ExtendedBy (n : Nat) (p q : Point) : Prop where
  /-- The place in the matrix stays. -/
  index : p.index = q.index
  /-- The name stays. -/
  name : p.name = q.name
  /-- The template stays. -/
  template : p.template = q.template
  /-- The operation stays. -/
  operation : p.operation = q.operation
  /-- The type stays. -/
  type : p.type = q.type
  /-- The bit field stays. -/
  bitField : p.bitField = q.bitField
  /-- The seed stays. -/
  seed : p.seed = q.seed
  /-- The buffers are extended, each in its place. -/
  inputs : List.Forall₂ (Buffer.ExtendedBy n) p.inputs q.inputs

namespace Inputs

variable {op : Operation} {t : ElementType} {n m : Nat}

/-- **Rows that are drawn later do not change those that have been drawn.** -/
theorem drawRows_isPrefix (op : Operation) (t : ElementType) (h : n ≤ m) (g : Random.ChaCha) :
    drawRows op t n g <+: drawRows op t m g := by
  induction n generalizing m g with
  | zero => exact List.nil_prefix
  | succ n ih =>
      cases m with
      | zero => cases h
      | succ m =>
          -- the first row leaves the same generator to the others
          rw [drawRows, drawRows]
          exact (List.prefix_cons_inj _).2 (ih (Nat.le_of_succ_le_succ h) _)

theorem rowsOf_isPrefix (op : Operation) (t : ElementType) (seed : Word) (h : n ≤ m) :
    rowsOf op t seed n <+: rowsOf op t seed m := by
  rw [rowsOf, rowsOf]
  exact (List.prefix_append_right_inj _).2 (drawRows_isPrefix op t h _)

/-- Each buffer is a column of the rows, so it grows as they do. -/
theorem extendedBy_bufferAt {rows more : List (List Word)} (h : rows <+: more) (k : Nat) :
    (bufferAt op t rows k).ExtendedBy (more.length - rows.length) (bufferAt op t more k) where
  name := rfl
  type := rfl
  data := (h.map _).map _
  length := by
    have hle := h.length_le
    rw [bufferAt, bufferAt, Buffer.length_ofWords, Buffer.length_ofWords, List.length_map,
      List.length_map]
    omega

theorem forall₂_buffersOf (op : Operation) (t : ElementType) (seed : Word) (h : n ≤ m) :
    List.Forall₂ (Buffer.ExtendedBy (m - n)) (buffersOf op t seed n) (buffersOf op t seed m) := by
  have hlength : (rowsOf op t seed m).length - (rowsOf op t seed n).length = m - n := by
    simp only [rowsOf, List.length_append, length_drawRows]
    omega
  rw [buffersOf_eq_map, buffersOf_eq_map, List.forall₂_map_left_iff, List.forall₂_map_right_iff,
    List.forall₂_same]
  intro k _
  rw [← hlength]
  exact extendedBy_bufferAt (rowsOf_isPrefix op t seed h) k

end Inputs

namespace Matrix

/-- **More random samples append rows and change nothing else.** The points are the same, in the same
order, with the same numbers, names and seeds, and each buffer of a point has the values that it had,
followed by one for each further sample. -/
theorem points_append_samples (r : Registry) (t : Template) (o : MatrixOptions) (s : Selection)
    {n m : Nat} (h : n ≤ m) :
    List.Forall₂ (Point.ExtendedBy (m - n)) (points r t { o with samples := n } s)
      (points r t { o with samples := m } s) := by
  -- what is selected does not depend on the samples
  have hselected : selected r t { o with samples := n } s = selected r t { o with samples := m } s :=
    rfl
  rw [points, points, hselected, List.forall₂_map_left_iff, List.forall₂_map_right_iff,
    List.forall₂_same]
  intro c _
  exact {
    index := rfl
    name := rfl
    template := rfl
    operation := rfl
    type := rfl
    bitField := rfl
    seed := rfl
    inputs := Inputs.forall₂_buffersOf c.operation c.type _ h }

/-- Shifts of all widths, with no sample and with three. -/
theorem points_append_samples_shift :
    let t : Template := ⟨"s", "k", .shift, ".entry k( ) { <OP> %d; }"⟩
    let r := Registry.builtin .clamp
    0 ≤ 3 ∧ (points r t ⟨7, 0, true⟩ .all).length = 12 ∧
      List.Forall₂ (Point.ExtendedBy 3) (points r t ⟨7, 0, true⟩ .all)
        (points r t ⟨7, 3, true⟩ .all) := by
  intro t r
  have h : 0 ≤ 3 := by decide
  have hlength : (points r t ⟨7, 0, true⟩ .all).length = 12 := by
    rw [points, List.length_map]
    decide +kernel
  exact ⟨h, hlength, points_append_samples r t ⟨7, 0, true⟩ .all h⟩

end Matrix

end Crosscheck
