import Crosscheck.Proofs.Compare
import Crosscheck.Proofs.List
import Mathlib.Data.List.Sort

/-!
# Crosscheck.Proofs.Compare.Listing

**A comparison counts all mismatches and lists the first of them.** Elements are compared at each index
of both outputs, and the mismatches found are those at the failing indices, in ascending order
(`Comparator.map_snd_mismatches`). They are all counted, however many of them may be listed, and each
that is listed is described by what stands at its index in the outputs and in every input
(`Comparator.compare_listing`).
-/

namespace Crosscheck

namespace Comparator

variable {c : Comparator} {t : ElementType} {p : Point} {expected actual : Buffer}
  {e a : Word} {i : Nat}

/-- The indices at which the actual element is not accepted for the expected one, in ascending order. -/
def failing (c : Comparator) (t : ElementType) (expected actual : Buffer) : List Nat :=
  (List.range expected.length).filter fun i =>
    !accepts t c.maxUlp (expected.data.getD i 0) (actual.data.getD i 0)

/-- What is said about the elements at an index of a point. -/
structure Describes (p : Point) (expected actual : Buffer) (i : Nat) (d : ElementMismatch) : Prop where
  /-- It names the index. -/
  index : d.index = i
  /-- It shows the operand at the index for each input. -/
  inputs : List.Forall₂ (fun b text => ∃ v, b.data[i]? = some v ∧ text = b.type.formatValue v)
    p.inputs d.inputs
  /-- It shows both elements, and how far they are apart if they are floats and neither is NaN. -/
  elements : ∃ e a, expected.data[i]? = some e ∧ actual.data[i]? = some a ∧
    d.expected = p.type.formatValue e ∧ d.actual = p.type.formatValue a ∧
    d.ulp = if p.type.isFloat = true ∧ FloatElement.isNaN p.type.bits e = false ∧
        FloatElement.isNaN p.type.bits a = false then some (Ulp.ofBits p.type.bits e a) else none

/-- What is found stands at one index in both outputs. -/
theorem mem_mismatches_iff : ((e, a), i) ∈ c.mismatches t expected actual ↔
    expected.data[i]? = some e ∧ actual.data[i]? = some a ∧ accepts t c.maxUlp e a = false := by
  rw [mismatches, rejected, List.mem_filter, List.mk_mem_zipIdx_iff_getElem?, List.getElem?_zip_eq_some,
    and_assoc]
  simp

theorem pairwise_failing : (c.failing t expected actual).Pairwise (· < ·) :=
  List.pairwise_lt_range.filter _

theorem mem_failing_iff (h : expected.length = actual.length) :
    i ∈ c.failing t expected actual ↔ ∃ e a, expected.data[i]? = some e ∧ actual.data[i]? = some a ∧
      accepts t c.maxUlp e a = false := by
  rw [failing, List.mem_filter, List.mem_range, Bool.not_eq_true', List.getD_eq_getElem?_getD,
    List.getD_eq_getElem?_getD]
  constructor
  · rintro ⟨hi, hrejected⟩
    have hactual : i < actual.data.length := Nat.lt_of_lt_of_eq hi h
    have he : expected.data[i]? = some expected.data[i] := List.getElem?_eq_getElem hi
    have ha : actual.data[i]? = some actual.data[i] := List.getElem?_eq_getElem hactual
    rw [he, ha] at hrejected
    exact ⟨_, _, he, ha, hrejected⟩
  · rintro ⟨e, a, he, ha, hrejected⟩
    obtain ⟨hi, -⟩ := List.getElem?_eq_some_iff.1 he
    rw [he, ha]
    exact ⟨hi, hrejected⟩

/-- **The mismatches found are those at the failing indices.** -/
theorem map_snd_mismatches (h : expected.length = actual.length) :
    (c.mismatches t expected actual).map Prod.snd = c.failing t expected actual := by
  have hfound : ((c.mismatches t expected actual).map Prod.snd).Pairwise (· < ·) :=
    List.pairwise_map.2 ((pairwise_zipIdx _).filter _)
  refine hfound.eq_of_mem_iff pairwise_failing fun i => ?_
  rw [mem_failing_iff h, List.mem_map]
  constructor
  · rintro ⟨⟨⟨e, a⟩, i⟩, hmem, rfl⟩
    exact ⟨e, a, mem_mismatches_iff.1 hmem⟩
  · rintro ⟨e, a, hrejected⟩
    exact ⟨((e, a), i), mem_mismatches_iff.2 hrejected, rfl⟩

/-- A distance is listed for numbers only. -/
theorem listedUlp_eq (t : ElementType) (e a : Word) :
    listedUlp t e a = if t.isFloat = true ∧ FloatElement.isNaN t.bits e = false ∧
      FloatElement.isNaN t.bits a = false then some (Ulp.ofBits t.bits e a) else none := by
  rw [listedUlp]
  exact if_congr (by simp [and_assoc]) rfl rfl

theorem describes_describe (hinputs : ∀ b ∈ p.inputs, expected.length ≤ b.length)
    (he : expected.data[i]? = some e) (ha : actual.data[i]? = some a) :
    Describes p expected actual i (describe p i e a) where
  index := rfl
  inputs := by
    rw [describe, List.forall₂_map_right_iff, List.forall₂_same]
    intro b hb
    obtain ⟨hi, -⟩ := List.getElem?_eq_some_iff.1 he
    have hlt : i < b.data.length := Nat.lt_of_lt_of_le hi (hinputs b hb)
    exact ⟨b.data[i], List.getElem?_eq_getElem hlt, by
      rw [List.getD_eq_getElem?_getD, List.getElem?_eq_getElem hlt, Option.getD_some]⟩
  elements := ⟨e, a, he, ha, rfl, rfl, listedUlp_eq p.type e a⟩

/-- Each mismatch that is listed is described by what stands at its index. -/
theorem describes_listed (hinputs : ∀ b ∈ p.inputs, expected.length ≤ b.length)
    (h : expected.length = actual.length) (count : Nat) :
    List.Forall₂ (Describes p expected actual) ((c.failing p.type expected actual).take count)
      (((c.mismatches p.type expected actual).take count).map fun ((e, a), i) => describe p i e a) := by
  rw [← map_snd_mismatches h, ← List.map_take, List.forall₂_map_left_iff, List.forall₂_map_right_iff,
    List.forall₂_same]
  rintro ⟨⟨e, a⟩, i⟩ hmem
  obtain ⟨he, ha, -⟩ := mem_mismatches_iff.1 (List.mem_of_mem_take hmem)
  exact describes_describe hinputs he ha

/-- **What a comparison says.** Let every input have an element for each of the expected output. If the
outputs have different lengths, the device has failed, in the words for an output of the wrong shape,
and no output is kept. Otherwise both are kept as they are, and there are as many elements as are
expected. It is a pass if no index fails. If some do they are all counted, and the first of them are
listed, up to as many as may be, in order and each with its description. -/
theorem compare_listing (c : Comparator) (p : Point) (expected actual : Buffer)
    (hinputs : ∀ b ∈ p.inputs, expected.length ≤ b.length) :
    let result := c.compare p expected actual
    let indices := c.failing p.type expected actual
    result.point = p.key ∧
    (expected.length ≠ actual.length →
      result.outcome = .executionFailure
        (ExecutionFailure.outputShape expected.name expected.length actual.length).message ∧
      result.expected = none ∧ result.actual = none) ∧
    (expected.length = actual.length →
      result.elements = expected.length ∧ result.expected = some expected ∧
      result.actual = some actual ∧
      (indices = [] → result.outcome = .pass) ∧
      (indices ≠ [] → ∃ listed, result.outcome = .mismatch indices.length listed ∧
        List.Forall₂ (Describes p expected actual) (indices.take c.maxListed) listed)) := by
  intro result indices
  by_cases hlength : expected.length = actual.length
  · have hresult : result = _ := compare_of_eq hlength
    have hindices : _ = indices := map_snd_mismatches hlength
    rw [hresult]
    refine ⟨rfl, fun hne => absurd hlength hne, fun _ => ⟨rfl, rfl, rfl, fun hnone => ?_, fun hsome => ?_⟩⟩
    · rw [← hindices, List.map_eq_nil_iff] at hnone
      exact if_pos (List.length_eq_zero_iff.2 hnone)
    · rw [← hindices, ne_eq, List.map_eq_nil_iff] at hsome
      rw [← hindices, List.length_map, hindices]
      exact ⟨_, if_neg (mt List.length_eq_zero_iff.1 hsome),
        describes_listed hinputs hlength c.maxListed⟩
  · have hresult : result = _ := compare_of_ne hlength
    rw [hresult]
    exact ⟨rfl, fun _ => ⟨rfl, rfl, rfl⟩, fun heq => absurd heq hlength⟩

/-- A sum with two wrong elements of three, of which one may be listed, and the same with an element
missing. -/
theorem compare_listing_capped :
    let s16 := ElementType.ofWidth "s16" 16 .signed
    let p : Point :=
      { index := 0, name := "arith/add.s16", template := "arith",
        operation := ⟨.add, "add", .binary, .binary, [.signed], [16]⟩, type := s16, bitField := none,
        seed := 0, inputs := [⟨"input_a", s16, [1, 2, 3]⟩, ⟨"input_b", s16, [4, 5, 6, 7]⟩] }
    let expected : Buffer := ⟨"output", s16, [5, 7, 9]⟩
    (∀ b ∈ p.inputs, expected.length ≤ b.length) ∧
      (∃ d, (compare ⟨0, 1⟩ p expected ⟨"output", s16, [5, 8, 0xffff]⟩).outcome = .mismatch 2 [d] ∧
        Describes p expected ⟨"output", s16, [5, 8, 0xffff]⟩ 1 d) ∧
      (compare ⟨0, 1⟩ p expected ⟨"sums", s16, [5, 8]⟩).outcome =
        .executionFailure "output buffer output has 2 element(s), expected 3" := by
  intro s16 p expected
  have hinputs : ∀ b ∈ p.inputs, expected.length ≤ b.length := by decide
  obtain ⟨-, -, hequal⟩ := compare_listing ⟨0, 1⟩ p expected ⟨"output", s16, [5, 8, 0xffff]⟩ hinputs
  obtain ⟨-, hshort, -⟩ := compare_listing ⟨0, 1⟩ p expected ⟨"sums", s16, [5, 8]⟩ hinputs
  have hindices : failing ⟨0, 1⟩ p.type expected ⟨"output", s16, [5, 8, 0xffff]⟩ = [1, 2] := by decide
  obtain ⟨-, -, -, -, hmismatch⟩ := hequal rfl
  rw [hindices] at hmismatch
  obtain ⟨listed, houtcome, hlisted⟩ := hmismatch (by decide)
  refine ⟨hinputs, ?_, (hshort (by decide)).1.trans (by decide +kernel)⟩
  cases hlisted with
  | cons hfirst hrest =>
      cases hrest
      exact ⟨_, houtcome, hfirst⟩

end Comparator

end Crosscheck
