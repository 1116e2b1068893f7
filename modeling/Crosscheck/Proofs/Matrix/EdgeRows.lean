import Crosscheck.Proofs.Matrix.Naming
import Crosscheck.Word.Lemmas
import Mathlib.Algebra.BigOperators.Group.List.Basic
import Mathlib.Data.List.Forall2

/-!
# Crosscheck.Proofs.Matrix.EdgeRows

**The shape of a point's inputs.** A point has one buffer for each operand, all of one length: first as
many rows as there are combinations of edge values, then the random rows. The combination in a row is
its number written with the counts of edge values as radices, the last operand being the lowest digit
(`Inputs.getElem?_of_combination`), and each buffer holds one digit of every row
(`Inputs.getElem?_data_of_lt`). So the edge rows are the same for all seeds, and no combination is
missing (`Matrix.inputs_of_mem_points`).
-/

namespace Crosscheck

/-- An element of joined blocks of one length is found by its block and its place in the block. -/
theorem getElem?_flatMap_of_length {f : α → List β} {n : Nat} (hn : 0 < n)
    (h : ∀ a, (f a).length = n) (as : List α) (i : Nat) :
    (as.flatMap f)[i]? = as[i / n]?.bind fun a => (f a)[i % n]? := by
  induction as generalizing i with
  | nil => rfl
  | cons a as ih =>
      rw [List.flatMap_cons, List.getElem?_append, h]
      by_cases hi : i < n
      · rw [if_pos hi, Nat.div_eq_of_lt hi, Nat.mod_eq_of_lt hi]
        rfl
      · obtain ⟨j, rfl⟩ : ∃ j, i = j + n := ⟨i - n, by omega⟩
        rw [if_neg hi, Nat.add_sub_cancel, ih, Nat.add_div_right j hn, Nat.add_mod_right]
        rfl

namespace Inputs

variable {lists : List (List Word)} {values list : List Word} {row k : Nat}

/-! ### Combinations -/

/-- How many combinations there are of one value from each list. -/
def combinationCount (lists : List (List Word)) : Nat := (lists.map List.length).prod

theorem combinationCount_cons (list : List Word) (lists : List (List Word)) :
    combinationCount (list :: lists) = list.length * combinationCount lists := by
  simp [combinationCount]

theorem length_combinations (lists : List (List Word)) :
    (combinations lists).length = combinationCount lists := by
  induction lists with
  | nil => rfl
  | cons list lists ih =>
      rw [combinations, List.length_flatMap, combinationCount_cons]
      simp [ih]

/-- The lists up to one, that one, and the lists behind it. -/
theorem combinationCount_split (hk : lists[k]? = some list) :
    combinationCount lists =
      combinationCount (lists.drop (k + 1)) * (list.length * combinationCount (lists.take k)) := by
  obtain ⟨hlt, hget⟩ := List.getElem?_eq_some_iff.1 hk
  have hsplit : lists = lists.take k ++ list :: lists.drop (k + 1) := by
    rw [← hget, List.getElem_cons_drop, List.take_append_drop]
  conv_lhs => rw [hsplit]
  simp only [combinationCount, List.map_append, List.map_cons, List.prod_append, List.prod_cons]
  ac_rfl

/-- **A combination is its number, digit by digit**: the number of the value that it has from a list is
the digit at that place. -/
theorem getElem?_of_combination (h : (combinations lists)[row]? = some values)
    (hk : lists[k]? = some list) :
    values[k]? = list[row / combinationCount (lists.drop (k + 1)) % list.length]? := by
  induction lists generalizing row values k with
  | nil => cases hk
  | cons first later ih =>
      have hpos : 0 < combinationCount later := by
        rw [← length_combinations]
        refine List.length_pos_of_ne_nil fun hnil => ?_
        simp [combinations, hnil] at h
      rw [combinations, getElem?_flatMap_of_length hpos
        fun v => by rw [List.length_map, length_combinations]] at h
      obtain ⟨v, hv, hrest⟩ := Option.bind_eq_some_iff.1 h
      rw [List.getElem?_map] at hrest
      obtain ⟨vs, hvs, rfl⟩ := Option.map_eq_some_iff.1 hrest
      cases k with
      | zero =>
          obtain rfl : first = list := by simpa using hk
          obtain ⟨hlt, -⟩ := List.getElem?_eq_some_iff.1 hv
          rw [List.drop_succ_cons, List.drop_zero, Nat.mod_eq_of_lt hlt, hv]
          rfl
      | succ k =>
          have hk : later[k]? = some list := by simpa using hk
          -- the digits of the remainder are those of the number
          have hdigit : row % combinationCount later / combinationCount (later.drop (k + 1)) %
              list.length = row / combinationCount (later.drop (k + 1)) % list.length := by
            rw [combinationCount_split hk, Nat.mod_mul_right_div_self, Nat.mod_mul_right_mod]
          rw [List.getElem?_cons_succ, ih hvs hk, hdigit]
          rfl

theorem mem_combinations_iff : values ∈ combinations lists ↔ List.Forall₂ (· ∈ ·) values lists := by
  induction lists generalizing values with
  | nil => simp [combinations]
  | cons list lists ih =>
      simp only [combinations, List.mem_flatMap, List.mem_map, ih]
      constructor
      · rintro ⟨v, hv, vs, hvs, rfl⟩
        exact .cons hv hvs
      · rintro (_ | ⟨hv, hvs⟩)
        exact ⟨_, hv, _, hvs, rfl⟩

/-! ### Operands -/

variable {op : Operation} {t : ElementType} {seed : Word} {samples : Nat} {b : Buffer}

/-- The type of an operand. -/
def operandType (op : Operation) (t : ElementType) (k : Nat) : ElementType :=
  if isShiftAmount op k then shiftAmountType else t

/-- The edge values of an operand. -/
def operandEdges (op : Operation) (t : ElementType) (k : Nat) : List Word :=
  if isShiftAmount op k then shiftAmountEdges t.bits else t.edgeValues

/-- The edge values of each operand, masked to its type. -/
def maskedEdges (op : Operation) (t : ElementType) : List (List Word) :=
  (List.range op.operandCount).map fun k =>
    (operandEdges op t k).map (operandType op t k).truncate

theorem operandCount_le (op : Operation) : op.operandCount ≤ 3 := by
  rw [Operation.operandCount]
  cases op.arity with
  | unary => decide
  | binary => decide
  | ternary => decide

theorem operandTypes_eq (op : Operation) (t : ElementType) :
    operandTypes op t = (List.range op.operandCount).map (operandType op t) :=
  rfl

theorem edges_eq (op : Operation) (t : ElementType) :
    edges op t = (List.range op.operandCount).map (operandEdges op t) := by
  rw [edges, operandTypes_eq, List.zipIdx_map, List.map_map]
  apply List.ext_getElem?
  intro k
  rw [List.getElem?_map, List.getElem?_map, List.getElem?_zipIdx]
  by_cases hk : k < op.operandCount
  · rw [List.getElem?_range hk]
    by_cases hshift : isShiftAmount op k = true
    · simp [operandEdges, hshift]
    · simp [operandEdges, operandType, hshift]
  · simp [hk]

theorem getElem?_edges (t : ElementType) (hk : k < op.operandCount) :
    (edges op t)[k]? = some (operandEdges op t k) := by
  rw [edges_eq, List.getElem?_map, List.getElem?_range hk, Option.map_some]

theorem getElem?_maskedEdges (t : ElementType) (hk : k < op.operandCount) :
    (maskedEdges op t)[k]? = some ((operandEdges op t k).map (operandType op t k).truncate) := by
  rw [maskedEdges, List.getElem?_map, List.getElem?_range hk, Option.map_some]

/-- Masking values does not change how many there are. -/
theorem map_length_maskedEdges (op : Operation) (t : ElementType) :
    (maskedEdges op t).map List.length = (edges op t).map List.length := by
  rw [maskedEdges, edges_eq, List.map_map, List.map_map]
  exact List.map_congr_left fun k _ => List.length_map _

/-! ### Buffers -/

/-- The buffer of an operand, with its value in every row. -/
def bufferAt (op : Operation) (t : ElementType) (rows : List (List Word)) (k : Nat) : Buffer :=
  Buffer.ofWords (inputNames.getD k "") (operandType op t k) (rows.map fun row => row.getD k 0)

theorem buffersOf_eq_map (op : Operation) (t : ElementType) (seed : Word) (samples : Nat) :
    buffersOf op t seed samples =
      (List.range op.operandCount).map (bufferAt op t (rowsOf op t seed samples)) := by
  have hnames : op.operandCount ≤ inputNames.length := operandCount_le op
  apply List.ext_getElem?
  intro k
  rw [buffersOf, operandTypes_eq, List.getElem?_map, List.getElem?_map, List.getElem?_zipIdx]
  by_cases hk : k < op.operandCount
  · have hname : k < inputNames.length := by omega
    have hpair : (((List.range op.operandCount).map (operandType op t)).zip inputNames)[k]? =
        some (operandType op t k, inputNames.getD k "") := by
      rw [List.getElem?_zip_eq_some, List.getElem?_map, List.getElem?_range hk,
        List.getD_eq_getElem?_getD, List.getElem?_eq_getElem hname]
      exact ⟨rfl, rfl⟩
    rw [hpair, List.getElem?_range hk]
    simp [bufferAt]
  · have hnone : (((List.range op.operandCount).map (operandType op t)).zip inputNames)[k]? = none := by
      rw [List.getElem?_eq_none_iff, List.length_zip, List.length_map, List.length_range]
      omega
    have hrange : (List.range op.operandCount)[k]? = none := by
      rw [List.getElem?_eq_none_iff, List.length_range]
      omega
    rw [hnone, hrange]
    rfl

theorem getElem?_buffersOf (t : ElementType) (seed : Word) (samples : Nat)
    (hk : k < op.operandCount) :
    (buffersOf op t seed samples)[k]? = some (bufferAt op t (rowsOf op t seed samples) k) := by
  rw [buffersOf_eq_map, List.getElem?_map, List.getElem?_range hk, Option.map_some]

theorem map_name_buffersOf (op : Operation) (t : ElementType) (seed : Word) (samples : Nat) :
    (buffersOf op t seed samples).map (·.name) = inputNames.take op.operandCount := by
  rw [buffersOf_eq_map, List.map_map, Operation.operandCount]
  cases op.arity with
  | unary => rfl
  | binary => rfl
  | ternary => rfl

theorem map_type_buffersOf (op : Operation) (t : ElementType) (seed : Word) (samples : Nat) :
    (buffersOf op t seed samples).map (·.type) = operandTypes op t := by
  rw [buffersOf_eq_map, List.map_map]
  rfl

theorem length_drawRows (op : Operation) (t : ElementType) (n : Nat) (g : Random.ChaCha) :
    (drawRows op t n g).length = n := by
  induction n generalizing g with
  | zero => rfl
  | succ n ih => rw [drawRows, List.length_cons, ih]

/-- All buffers are as long as there are rows. -/
theorem length_of_mem_buffersOf (hb : b ∈ buffersOf op t seed samples) :
    b.length = combinationCount (maskedEdges op t) + samples := by
  rw [buffersOf_eq_map] at hb
  obtain ⟨k, -, rfl⟩ := List.mem_map.1 hb
  rw [bufferAt, Buffer.length_ofWords, List.length_map, rowsOf, List.length_append,
    length_combinations, length_drawRows, combinationCount, combinationCount, map_length_maskedEdges]

/-- All values fit the types of their buffers. -/
theorem lt_of_mem_buffersOf (h64 : t.bits ≤ 64) (hb : b ∈ buffersOf op t seed samples) {v : Word}
    (hv : v ∈ b.data) : v.toNat < 2 ^ b.type.bits := by
  rw [buffersOf_eq_map] at hb
  obtain ⟨k, -, rfl⟩ := List.mem_map.1 hb
  obtain ⟨w, -, rfl⟩ := List.mem_map.1 hv
  have hbits : (operandType op t k).bits ≤ 64 := by
    rw [operandType]
    split
    · decide
    · exact h64
  exact Word.toNat_low_lt hbits w

/-- **Each buffer holds one digit of every edge row.** -/
theorem getElem?_data_of_lt (hb : (buffersOf op t seed samples)[k]? = some b)
    (hlist : (maskedEdges op t)[k]? = some list) (hrow : row < combinationCount (maskedEdges op t)) :
    b.data[row]? =
      list[row / combinationCount ((maskedEdges op t).drop (k + 1)) % list.length]? := by
  have hk : k < op.operandCount := by
    obtain ⟨hlt, -⟩ := List.getElem?_eq_some_iff.1 hlist
    simpa [maskedEdges] using hlt
  rw [getElem?_buffersOf t seed samples hk] at hb
  rw [getElem?_maskedEdges t hk] at hlist
  obtain rfl := Option.some.inj hb
  obtain rfl := Option.some.inj hlist
  -- the counts are those of the values before masking
  have hcount : ∀ n, combinationCount ((maskedEdges op t).drop n) =
      combinationCount ((edges op t).drop n) := by
    intro n
    rw [combinationCount, combinationCount, List.map_drop, List.map_drop, map_length_maskedEdges]
  have hlt : row < (combinations (edges op t)).length := by
    rw [length_combinations]
    exact hcount 0 ▸ hrow
  have hcombination := List.getElem?_eq_getElem hlt
  have hdigit := getElem?_of_combination hcombination (getElem?_edges t hk)
  have hlength := (mem_combinations_iff.1 (List.getElem_mem hlt)).length_eq
  have hvalue := List.getElem?_eq_getElem (l := (combinations (edges op t))[row]) (i := k)
    (by rw [hlength, edges_eq, List.length_map, List.length_range]; exact hk)
  have hrows : (rowsOf op t seed samples)[row]? = some (combinations (edges op t))[row] := by
    rw [rowsOf, List.getElem?_append_left hlt, hcombination]
  rw [hcount, List.length_map, List.getElem?_map, ← hdigit, hvalue, bufferAt, Buffer.ofWords,
    List.getElem?_map, List.getElem?_map, hrows, Option.map_some, Option.map_some,
    List.getD_eq_getElem?_getD, hvalue]
  rfl

/-- The operands of an edge row are the combination of its number. -/
theorem getElem?_combinations_maskedEdges (hrow : row < combinationCount (maskedEdges op t))
    (seed : Word) (samples : Nat) :
    (combinations (maskedEdges op t))[row]? =
      some ((buffersOf op t seed samples).map fun b => b.data.getD row 0) := by
  have hlt : row < (combinations (maskedEdges op t)).length := by rwa [length_combinations]
  have hcombination := List.getElem?_eq_getElem hlt
  have hlength := (mem_combinations_iff.1 (List.getElem_mem hlt)).length_eq
  rw [hcombination, Option.some.injEq]
  apply List.ext_getElem?
  intro k
  rw [List.getElem?_map]
  by_cases hk : k < op.operandCount
  · have hb := getElem?_buffersOf t seed samples hk
    have hlist := getElem?_maskedEdges t hk
    have hdata : row < (bufferAt op t (rowsOf op t seed samples) k).data.length := by
      have hlong := length_of_mem_buffersOf (List.mem_of_getElem? hb)
      rw [Buffer.length] at hlong
      omega
    rw [getElem?_of_combination hcombination hlist, ← getElem?_data_of_lt hb hlist hrow, hb,
      Option.map_some, List.getD_eq_getElem?_getD, List.getElem?_eq_getElem hdata]
    rfl
  · have hnone : op.operandCount ≤ k := by omega
    rw [List.getElem?_eq_none (by rw [hlength]; simpa [maskedEdges] using hnone),
      List.getElem?_eq_none (by simpa [buffersOf_eq_map] using hnone)]
    rfl

end Inputs

namespace Matrix

variable {r : Registry} {t : Template} {o : MatrixOptions} {s : Selection} {p : Point}

/-- The inputs of a point, and the type that it took from the catalog. -/
theorem inputs_eq_of_mem_points (hp : p ∈ points r t o s) :
    p.inputs = Inputs.buffersOf p.operation p.type p.seed o.samples ∧ p.type ∈ r.types := by
  obtain ⟨c, hc, rfl⟩ := List.mem_map.1 hp
  obtain ⟨-, ⟨htype, -⟩, -⟩ := mem_triples.1 (mem_triples_of_mem_selected hc)
  exact ⟨rfl, htype⟩

/-- **The shape of a point's inputs**, for every catalog, template, selection and all options. With the
edge values of each operand masked to its type, a point has one buffer for each operand, under the first
of the names of inputs and with the types of the operands. All have as many values as there are
combinations of edge values and random rows together, and each value fits its type. In the rows of the
combinations, an operand is the edge value whose number is its digit of the row's number, the last
operand having the lowest digit. So every combination stands in one of these rows, whatever the seed. -/
theorem inputs_of_mem_points (hp : p ∈ points r t o s) :
    let edges := Inputs.maskedEdges p.operation p.type
    let count := (edges.map List.length).prod
    p.inputs.map (·.name) = inputNames.take p.operation.operandCount ∧
    p.inputs.map (·.type) = Inputs.operandTypes p.operation p.type ∧
    (∀ b ∈ p.inputs, b.length = count + o.samples ∧ ∀ v ∈ b.data, v.toNat < 2 ^ b.type.bits) ∧
    (∀ row < count, ∀ (k : Nat) b list, p.inputs[k]? = some b → edges[k]? = some list →
      b.data[row]? =
        list[row / ((edges.drop (k + 1)).map List.length).prod % list.length]?) ∧
    (∀ values, List.Forall₂ (· ∈ ·) values edges → ∃ row < count, p.operandsAt row = values) ∧
    ∀ o' s', ∀ q ∈ points r t o' s', q.operation = p.operation → q.type = p.type →
      ∀ row < count, q.operandsAt row = p.operandsAt row := by
  intro edges count
  obtain ⟨hinputs, htype⟩ := inputs_eq_of_mem_points hp
  have h64 : p.type.bits ≤ 64 := (r.wellFormed _ htype).2.1
  have hrows : ∀ row < count, (Inputs.combinations edges)[row]? = some (p.operandsAt row) := by
    intro row hrow
    rw [Point.operandsAt, hinputs]
    exact Inputs.getElem?_combinations_maskedEdges hrow p.seed o.samples
  refine ⟨?_, ?_, fun b hb => ⟨?_, fun v hv => ?_⟩, fun row hrow k b list hb hlist => ?_,
    fun values hvalues => ?_, fun o' s' q hq hop htypes row hrow => ?_⟩
  · rw [hinputs, Inputs.map_name_buffersOf]
  · rw [hinputs, Inputs.map_type_buffersOf]
  · rw [hinputs] at hb
    exact Inputs.length_of_mem_buffersOf hb
  · rw [hinputs] at hb
    exact Inputs.lt_of_mem_buffersOf h64 hb hv
  · rw [hinputs] at hb
    exact Inputs.getElem?_data_of_lt hb hlist hrow
  · obtain ⟨row, hget⟩ := List.mem_iff_getElem?.1 (Inputs.mem_combinations_iff.2 hvalues)
    obtain ⟨hlt, -⟩ := List.getElem?_eq_some_iff.1 hget
    have hrow : row < count := by rwa [Inputs.length_combinations] at hlt
    exact ⟨row, hrow, Option.some.inj ((hrows row hrow).symm.trans hget)⟩
  · have hother : (Inputs.combinations edges)[row]? = some (q.operandsAt row) := by
      rw [Point.operandsAt, (inputs_eq_of_mem_points hq).1, hop, htypes]
      exact Inputs.getElem?_combinations_maskedEdges hrow q.seed o'.samples
    exact Option.some.inj (hother.symm.trans (hrows row hrow))

/-- Left shifts of 32 bits, with six edge values and seven edge amounts. -/
theorem inputs_of_mem_points_shift :
    let shl : Operation := ⟨.shiftLeft, "shl", .binary, .shift, [.bits], Operation.allWidths⟩
    let t : Template := ⟨"s", "k", .shift, ".entry k( ) { <OP> %d; }"⟩
    let o : MatrixOptions := ⟨7, 2, true⟩
    let p := materialize t o ⟨1, shl, .ofWidth "b32" 32 .bits, none⟩
    p ∈ points (Registry.builtin .clamp) t o .all ∧
      p.inputs.map (·.name) = ["input_a", "input_b"] ∧
      p.inputs.map (·.type) = [.ofWidth "b32" 32 .bits, .ofWidth "u32" 32 .unsigned] ∧
      (∀ b ∈ p.inputs, b.length = 6 * 7 + 2) ∧
      (∀ b, p.inputs[0]? = some b → b.data[2 * 7 + 3]? = some 0xFFFFFFFF) ∧
      (∀ b, p.inputs[1]? = some b → b.data[2 * 7 + 3]? = some 32) ∧
      ∃ row < 6 * 7, p.operandsAt row = [0xAAAAAAAA, 33] := by
  intro shl t o p
  have hp : p ∈ points (Registry.builtin .clamp) t o .all :=
    List.mem_map_of_mem (by decide +kernel)
  obtain ⟨hnames, htypes, hbuffers, hdigits, hall, -⟩ := inputs_of_mem_points hp
  have hcount : ((Inputs.maskedEdges shl p.type).map List.length).prod = 6 * 7 := by decide +kernel
  have hrow : 2 * 7 + 3 < ((Inputs.maskedEdges shl p.type).map List.length).prod := by
    rw [hcount]
    decide
  refine ⟨hp, hnames, htypes, fun b hb => (hbuffers b hb).1.trans (congrArg (· + 2) hcount),
    fun b hb => ?_, fun b hb => ?_, ?_⟩
  · rw [hdigits _ hrow 0 b _ hb rfl]
    decide +kernel
  · rw [hdigits _ hrow 1 b _ hb rfl]
    decide +kernel
  · rw [← hcount]
    exact hall _ (.cons (by decide +kernel) (.cons (by decide +kernel) .nil))

end Matrix

end Crosscheck
