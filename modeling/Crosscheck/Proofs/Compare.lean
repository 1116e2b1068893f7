import Crosscheck.Compare
import Mathlib.Data.List.Induction

/-!
# Crosscheck.Proofs.Compare

**What a comparison counts.** Two outputs are compared element by element. What was found after some
elements are all mismatches among them, counted, and the first ones, described
(`Comparator.foldl_examine`). So two buffers whose words are given index by index are compared to a
pass if every pair of words is accepted, and to a mismatch that counts the other pairs otherwise
(`Comparator.compare_ofWords`). Cutting the words to the type does not matter, because the comparison
does so itself.
-/

namespace Crosscheck

theorem ElementType.truncate_truncate (t : ElementType) (v : Word) :
    t.truncate (t.truncate v) = t.truncate v :=
  Word.low_low t.bits v

/-- A buffer of the words of a buffer is that buffer, under another name. -/
theorem Buffer.ofWords_data (name other : String) (t : ElementType) (words : List Word) :
    ofWords name t (ofWords other t words).data = ofWords name t words := by
  simp [ofWords, Function.comp_def, ElementType.truncate_truncate]

namespace Comparator

variable {t : ElementType} {maxUlp e a : Word}

/-- A word is accepted for itself. -/
@[simp] theorem accepts_self (t : ElementType) (maxUlp v : Word) : accepts t maxUlp v v = true := by
  simp [accepts]

theorem accepts_truncate_left :
    accepts t maxUlp (t.truncate e) a = accepts t maxUlp e a := by
  simp only [accepts, ElementType.truncate_truncate]

theorem accepts_truncate_right :
    accepts t maxUlp e (t.truncate a) = accepts t maxUlp e a := by
  simp only [accepts, ElementType.truncate_truncate]

/-! ### The loop over the elements -/

/-- The pairs that are not accepted, each with its position. -/
def rejected (c : Comparator) (t : ElementType) (pairs : List ((Word × Word) × Nat)) :
    List ((Word × Word) × Nat) :=
  pairs.filter fun ((e, a), _) => !accepts t c.maxUlp e a

/-- The mismatching elements of two outputs, each with its position. -/
def mismatches (c : Comparator) (t : ElementType) (expected actual : Buffer) :
    List ((Word × Word) × Nat) :=
  c.rejected t (expected.data.zip actual.data).zipIdx

/-- What there is to be found in some pairs: how many mismatch, and the first of them. -/
def findings (c : Comparator) (p : Point) (pairs : List ((Word × Word) × Nat)) : Findings where
  total := (c.rejected p.type pairs).length
  listed := (((c.rejected p.type pairs).take c.maxListed).map
    fun ((e, a), i) => describe p i e a).toArray

/-- **One more pair.** It is counted if it mismatches, and listed as long as there is room. -/
theorem findings_concat (c : Comparator) (p : Point) (pairs : List ((Word × Word) × Nat))
    (pair : (Word × Word) × Nat) :
    c.findings p (pairs ++ [pair]) = c.examine p (c.findings p pairs) pair := by
  obtain ⟨⟨e, a⟩, i⟩ := pair
  cases haccepts : accepts p.type c.maxUlp e a with
  | true =>
      have hsame : c.rejected p.type (pairs ++ [((e, a), i)]) = c.rejected p.type pairs := by
        simp [rejected, haccepts]
      rw [findings, hsame, examine, if_pos haccepts]
      rfl
  | false =>
      have hmore : c.rejected p.type (pairs ++ [((e, a), i)]) =
          c.rejected p.type pairs ++ [((e, a), i)] := by
        simp [rejected, haccepts]
      rw [findings, hmore, examine, if_neg (by simp [haccepts])]
      by_cases hroom : (c.rejected p.type pairs).length < c.maxListed
      · have hlisted : (c.rejected p.type pairs).take c.maxListed = c.rejected p.type pairs :=
          List.take_of_length_le (Nat.le_of_lt hroom)
        have hlonger : (c.rejected p.type pairs ++ [((e, a), i)]).take c.maxListed =
            c.rejected p.type pairs ++ [((e, a), i)] :=
          List.take_of_length_le (by simp; omega)
        simp [findings, hlisted, hlonger, hroom]
      · have hfull : c.maxListed ≤ (c.rejected p.type pairs).length := Nat.le_of_not_lt hroom
        have hlisted : (c.rejected p.type pairs ++ [((e, a), i)]).take c.maxListed =
            (c.rejected p.type pairs).take c.maxListed :=
          List.take_append_of_le_length hfull
        have hsize : ¬ (c.findings p pairs).listed.size < c.maxListed := by
          simp [findings, hfull]
        rw [if_neg hsize, hlisted]
        simp [findings]

/-- **At any time, what was found is what there is to be found in the pairs so far.** -/
theorem foldl_examine (c : Comparator) (p : Point) (pairs : List ((Word × Word) × Nat)) :
    pairs.foldl (c.examine p) ⟨0, #[]⟩ = c.findings p pairs := by
  induction pairs using List.reverseRecOn with
  | nil => simp [findings, rejected]
  | append_singleton pairs pair ih =>
      rw [List.foldl_append, ih, findings_concat]
      rfl

theorem compare_of_ne {c : Comparator} {p : Point} {expected actual : Buffer}
    (h : expected.length ≠ actual.length) :
    c.compare p expected actual = .executionFailure p
      (ExecutionFailure.outputShape expected.name expected.length actual.length).message := by
  have hcheck : expected.spec.check actual =
      .error (.outputShape expected.name expected.length actual.length) := if_neg h.symm
  rw [compare, hcheck]

/-- The result for outputs of one length, in terms of all that mismatches. -/
theorem compare_of_eq {c : Comparator} {p : Point} {expected actual : Buffer}
    (h : expected.length = actual.length) :
    c.compare p expected actual =
      { point := p.key
        elements := expected.length
        outcome :=
          if (c.mismatches p.type expected actual).length = 0 then .pass
          else .mismatch (c.mismatches p.type expected actual).length
            (((c.mismatches p.type expected actual).take c.maxListed).map
              fun ((e, a), i) => describe p i e a)
        expected := some expected
        actual := some actual } := by
  have hcheck : expected.spec.check actual = .ok () := if_pos h.symm
  rw [compare, hcheck, foldl_examine]
  rfl

/-! ### Buffers that are given index by index -/

/-- The number of mismatching elements of two buffers that are given index by index. -/
theorem length_mismatches {c : Comparator} {expected actual : Buffer} {n : Nat} {f g : Nat → Word}
    (hf : expected.data = (List.range n).map f) (hg : actual.data = (List.range n).map g) :
    (c.mismatches t expected actual).length =
      (List.range n).countP fun i => !accepts t c.maxUlp (f i) (g i) := by
  have hpairs : ((expected.data.zip actual.data).zipIdx).map Prod.fst =
      (List.range n).map fun i => (f i, g i) := by
    rw [List.zipIdx_map_fst, hf, hg, List.zip_map']
  have hcount : (c.mismatches t expected actual).length =
      (((expected.data.zip actual.data).zipIdx).map Prod.fst).countP
        fun p => !accepts t c.maxUlp p.1 p.2 := by
    rw [List.countP_map, mismatches, rejected, List.countP_eq_length_filter]
    rfl
  rw [hcount, hpairs, List.countP_map]
  rfl

/-- **The result of comparing two buffers.** It counts the elements that are not accepted. -/
theorem compare_ofWords (c : Comparator) (p : Point) (name : String) {n : Nat} {f g : Nat → Word} :
    let result := c.compare p (Buffer.ofWords name p.type ((List.range n).map f))
      (Buffer.ofWords name p.type ((List.range n).map g))
    let failing := (List.range n).countP fun i => !accepts p.type c.maxUlp (f i) (g i)
    result.point = p.key ∧ result.elements = n ∧
      (failing = 0 → result.outcome = .pass) ∧
      (failing ≠ 0 → ∃ listed, result.outcome = .mismatch failing listed) := by
  intro result failing
  have hmismatches : (c.mismatches p.type (Buffer.ofWords name p.type ((List.range n).map f))
      (Buffer.ofWords name p.type ((List.range n).map g))).length = failing := by
    have hdata : ∀ h : Nat → Word, (Buffer.ofWords name p.type ((List.range n).map h)).data =
        (List.range n).map fun i => p.type.truncate (h i) := fun h => by
      simp [Buffer.ofWords, Function.comp_def]
    rw [length_mismatches (hdata f) (hdata g)]
    simp only [accepts_truncate_left, accepts_truncate_right, failing]
  have hlength : (Buffer.ofWords name p.type ((List.range n).map f)).length =
      (Buffer.ofWords name p.type ((List.range n).map g)).length := by
    simp
  have hresult : result = _ := compare_of_eq hlength
  rw [hresult]
  simp only [hmismatches, true_and]
  refine ⟨by simp, fun hzero => ?_, fun hne => ?_⟩
  · rw [if_pos hzero]
  · rw [if_neg hne]
    exact ⟨_, rfl⟩

end Comparator

end Crosscheck
