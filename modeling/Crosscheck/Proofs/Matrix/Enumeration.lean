import Crosscheck.Proofs.List
import Crosscheck.Proofs.Matrix.Naming
import Mathlib.Data.List.Forall2

/-!
# Crosscheck.Proofs.Matrix.Enumeration

**A matrix is complete, and a selection only filters it.** The points of a template stand at those
places of the catalog where an operation of its class meets a type that it supports, once for each
bit field, in the order of the catalog (`Matrix.points_all_and_filter`). Entries of the catalog may be
equal; places are told apart by their numbers. What is selected keeps its number, seed and inputs.
-/

namespace Crosscheck

/-- What a selection asks of a point. -/
def Selection.Wants (s : Selection) (p : Point) : Prop :=
  (s.templates = [] ∨ p.template ∈ s.templates) ∧ (s.types = [] ∨ p.type.name ∈ s.types) ∧
    (s.operations = [] ∨ p.operation.mnemonic ∈ s.operations) ∧ s.filter p.name = true

instance (s : Selection) (p : Point) : Decidable (s.Wants p) := inferInstanceAs (Decidable (_ ∧ _))

theorem map_fst_filter_zipIdx (p : α → Bool) (as : List α) :
    (as.zipIdx.filter fun x => p x.1).map Prod.fst = as.filter p := by
  have hfilter := List.filter_map (f := Prod.fst) (p := p) (l := as.zipIdx)
  rw [List.zipIdx_map_fst] at hfilter
  exact hfilter.symm

namespace Matrix

variable {r : Registry} {t : Template} {o : MatrixOptions} {s : Selection}
  {shape : OperationClass} {zeroLength : Bool}

/-! ### Places -/

/-- A place in a catalog: the number of an operation, the number of a type, and a bit field. -/
structure Place where
  operation : Nat
  type : Nat
  bitField : Option BitField

/-- Lexicographic order. -/
def Place.Before (a b : Place) : Prop :=
  a.operation < b.operation ∨ a.operation = b.operation ∧
    (a.type < b.type ∨ a.type = b.type ∧
      ∃ f g, a.bitField = some f ∧ b.bitField = some g ∧ f.before g = true)

/-- The triples of a class, with the numbers that operations and types have in the catalog. -/
def entries (r : Registry) (shape : OperationClass) (zeroLength : Bool) :
    List ((Operation × Nat) × (ElementType × Nat) × Option BitField) :=
  (r.operations.zipIdx.filter fun op => op.1.shape == shape).flatMap fun op =>
    (r.types.zipIdx.filter fun t => op.1.supports t.1).flatMap fun t =>
      (fieldsOf shape t.1 zeroLength).map fun f => (op, t, f)

/-- The place of an entry. -/
def placeOf (entry : (Operation × Nat) × (ElementType × Nat) × Option BitField) : Place :=
  ⟨entry.1.2, entry.2.1.2, entry.2.2⟩

theorem triples_eq_map (r : Registry) (shape : OperationClass) (zeroLength : Bool) :
    triples r shape zeroLength =
      (entries r shape zeroLength).map fun entry => (entry.1.1, entry.2.1.1, entry.2.2) := by
  have htypes : ∀ op : Operation, r.types.filter op.supports =
      (r.types.zipIdx.filter fun t => op.supports t.1).map Prod.fst :=
    fun op => (map_fst_filter_zipIdx op.supports r.types).symm
  have hops : r.operationsIn shape =
      (r.operations.zipIdx.filter fun op => op.1.shape == shape).map Prod.fst :=
    (map_fst_filter_zipIdx (fun op : Operation => op.shape == shape) r.operations).symm
  simp only [triples, entries, hops, htypes, List.flatMap_map, List.map_flatMap, List.map_map]
  rfl

theorem pairwise_fieldsOf (shape : OperationClass) (type : ElementType) (zeroLength : Bool) :
    (fieldsOf shape type zeroLength).Pairwise fun x y =>
      ∃ f g, x = some f ∧ y = some g ∧ f.before g = true := by
  rw [fieldsOf]
  split
  · refine List.pairwise_map.2 ((pairwise_ascending BitField.before_trans _).imp ?_)
    intro f g hbefore
    exact ⟨f, g, rfl, rfl, hbefore⟩
  · exact List.pairwise_singleton _ _

theorem pairwise_entries (r : Registry) (shape : OperationClass) (zeroLength : Bool) :
    (entries r shape zeroLength).Pairwise fun x y => (placeOf x).Before (placeOf y) := by
  have hops := (pairwise_zipIdx r.operations).filter fun op => op.1.shape == shape
  have htypes := fun op : Operation => (pairwise_zipIdx r.types).filter fun t => op.supports t.1
  -- the operation decides, then the type, then the bit field
  refine List.pairwise_flatMap.2 ⟨fun op _ => List.pairwise_flatMap.2 ⟨fun type _ => ?_, ?_⟩, ?_⟩
  · refine List.pairwise_map.2 ((pairwise_fieldsOf shape type.1 zeroLength).imp fun hfields => ?_)
    exact .inr ⟨rfl, .inr ⟨rfl, hfields⟩⟩
  · refine (htypes op.1).imp fun {type type'} hlt => ?_
    intro x hx y hy
    obtain ⟨f, -, rfl⟩ := List.mem_map.1 hx
    obtain ⟨g, -, rfl⟩ := List.mem_map.1 hy
    exact .inr ⟨rfl, .inl hlt⟩
  · refine hops.imp fun {op op'} hlt => ?_
    intro x hx y hy
    simp only [List.mem_flatMap, List.mem_map] at hx hy
    obtain ⟨type, -, f, -, rfl⟩ := hx
    obtain ⟨type', -, g, -, rfl⟩ := hy
    exact .inl hlt

theorem mem_fieldsOf {type : ElementType} {field : Option BitField} :
    field ∈ fieldsOf shape type zeroLength ↔
      if shape.hasBitField then
        ∃ f ∈ bitFieldPairs (UInt32.ofNat type.bits) zeroLength, field = some f
      else field = none := by
  rw [fieldsOf]
  split
  · simp only [List.mem_map, eq_comm]
  · rw [List.mem_singleton]

theorem mem_entries {op : Operation} {type : ElementType} {i j : Nat} {field : Option BitField} :
    ((op, i), (type, j), field) ∈ entries r shape zeroLength ↔
      (r.operations[i]? = some op ∧ op.shape = shape) ∧
      (r.types[j]? = some type ∧ op.supports type = true) ∧
      field ∈ fieldsOf shape type zeroLength := by
  simp only [entries, List.mem_flatMap, List.mem_map, List.mem_filter, beq_iff_eq, Prod.mk.injEq,
    ← List.mk_mem_zipIdx_iff_getElem?]
  constructor
  · rintro ⟨_, hop, _, htype, _, hfield, rfl, rfl, rfl⟩
    exact ⟨hop, htype, hfield⟩
  · rintro ⟨hop, htype, hfield⟩
    exact ⟨_, hop, _, htype, _, hfield, rfl, rfl, rfl⟩

theorem mem_map_placeOf {place : Place} : place ∈ (entries r shape zeroLength).map placeOf ↔
    ∃ op type, r.operations[place.operation]? = some op ∧ r.types[place.type]? = some type ∧
      op.shape = shape ∧ op.supports type = true ∧
      place.bitField ∈ fieldsOf shape type zeroLength := by
  rw [List.mem_map]
  constructor
  · rintro ⟨⟨⟨op, i⟩, ⟨type, j⟩, field⟩, hmem, rfl⟩
    obtain ⟨⟨hop, hshape⟩, ⟨htype, hsupports⟩, hfield⟩ := mem_entries.1 hmem
    exact ⟨op, type, hop, htype, hshape, hsupports, hfield⟩
  · rintro ⟨op, type, hop, htype, hshape, hsupports, hfield⟩
    exact ⟨_, mem_entries.2 ⟨⟨hop, hshape⟩, ⟨htype, hsupports⟩, hfield⟩, rfl⟩

/-! ### Points -/

theorem selected_all (r : Registry) (t : Template) (o : MatrixOptions) :
    selected r t o Selection.all = combinations r t.shape o.zeroLength := by
  rw [selected, if_pos (by rfl)]
  exact List.filter_eq_self.2 fun _ _ => rfl

/-- The selected points are all points but those that the selection does not want. -/
theorem points_eq_filter (r : Registry) (t : Template) (o : MatrixOptions) (s : Selection) :
    points r t o s = (points r t o Selection.all).filter fun p => s.Wants p := by
  have hwants : ∀ c : Combination, decide (s.Wants (materialize t o c)) =
      (s.admitsTemplate t.id && s.admits c.operation c.type (nameOf t c)) := by
    intro c
    rw [Bool.eq_iff_iff, decide_eq_true_iff]
    simp [Selection.Wants, Selection.admitsTemplate, Selection.admits, materialize, and_assoc]
  rw [points, points, selected_all, List.filter_map, selected]
  simp only [Function.comp_def, hwants]
  cases s.admitsTemplate t.id with
  | true => simp
  | false => simp

/-- All points are numbered in order. -/
theorem map_index_points (r : Registry) (t : Template) (o : MatrixOptions) :
    (points r t o Selection.all).map (·.index) =
      List.range (points r t o Selection.all).length := by
  have hindex : (points r t o Selection.all).map (·.index) =
      (triples r t.shape o.zeroLength).zipIdx.map Prod.snd := by
    rw [points, selected_all, combinations, List.map_map, List.map_map]
    rfl
  have hlength : (points r t o Selection.all).length =
      (triples r t.shape o.zeroLength).length := by
    simp [points, selected_all, combinations]
  rw [hindex, List.zipIdx_map_snd, hlength, List.range_eq_range']

/-- A point is at a place of the catalog. -/
def StandsAt (r : Registry) (p : Point) (place : Place) : Prop :=
  r.operations[place.operation]? = some p.operation ∧ r.types[place.type]? = some p.type ∧
    p.bitField = place.bitField

/-- All points stand at the places of the entries, one at each. -/
theorem forall₂_standsAt (r : Registry) (t : Template) (o : MatrixOptions) :
    List.Forall₂ (StandsAt r) (points r t o Selection.all)
      ((entries r t.shape o.zeroLength).map placeOf) := by
  have hplaces : (entries r t.shape o.zeroLength).map placeOf =
      (entries r t.shape o.zeroLength).zipIdx.map fun x => placeOf x.1 := by
    conv_lhs => rw [← List.zipIdx_map_fst 0 (entries r t.shape o.zeroLength), List.map_map]
    rfl
  rw [points, selected_all, combinations, triples_eq_map, List.zipIdx_map, List.map_map,
    List.map_map, hplaces, List.forall₂_map_left_iff, List.forall₂_map_right_iff, List.forall₂_same]
  rintro ⟨⟨⟨op, i⟩, ⟨type, j⟩, field⟩, n⟩ hmem
  obtain ⟨⟨hop, -⟩, ⟨htype, -⟩, -⟩ := mem_entries.1 (List.fst_mem_of_mem_zipIdx hmem)
  exact ⟨hop, htype, rfl⟩

/-- **A matrix is complete, and a selection only filters it.** All points stand, one at each and in
lexicographic order, at the places where an operation of the class meets a type that it supports, with
every bit field for a class that has bit fields; their indices count them. What a selection gives are
those of these points that pass all of its tests, and their names and number without making them. -/
theorem points_all_and_filter (r : Registry) (t : Template) (o : MatrixOptions) :
    (∃ places : List Place,
      places.Pairwise Place.Before ∧
      (∀ place, place ∈ places ↔
        ∃ op type, r.operations[place.operation]? = some op ∧ r.types[place.type]? = some type ∧
          op.shape = t.shape ∧ op.supports type = true ∧
          if t.shape.hasBitField then
            ∃ f ∈ bitFieldPairs (UInt32.ofNat type.bits) o.zeroLength, place.bitField = some f
          else place.bitField = none) ∧
      List.Forall₂ (StandsAt r) (points r t o Selection.all) places) ∧
    (points r t o Selection.all).map (·.index) =
      List.range (points r t o Selection.all).length ∧
    ∀ s : Selection,
      points r t o s = (points r t o Selection.all).filter (fun p => s.Wants p) ∧
      names r t o s = (points r t o s).map (·.name) ∧
      (selected r t o s).length = (points r t o s).length := by
  refine ⟨⟨(entries r t.shape o.zeroLength).map placeOf, ?_, fun place => ?_, ?_⟩, ?_, fun s => ?_⟩
  · exact List.pairwise_map.2 (pairwise_entries r t.shape o.zeroLength)
  · simp only [mem_map_placeOf, mem_fieldsOf]
  · exact forall₂_standsAt r t o
  · exact map_index_points r t o
  · exact ⟨points_eq_filter r t o s, names_eq r t o s, by simp [points]⟩

end Matrix

end Crosscheck
