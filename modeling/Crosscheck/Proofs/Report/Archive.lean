import Crosscheck.Proofs.Json.Record
import Crosscheck.Proofs.Json.RoundTrip
import Crosscheck.Proofs.Report.Conservation
import Crosscheck.Report.Archive
import Crosscheck.Report.Text

/-!
# Crosscheck.Proofs.Report.Archive

**An archived report is read back.** Each part of a report is read from its JSON value, whichever of its
fields are there (`Summary.ofJson?_toJson`, `TestResult.ofJson?_toJson`, ...), and tables are entered
again in their order. All counts need to have 64 bits and all tables to be in order, as they are in
every report on a run (`Report.wellFormed_ofResults`). The compared buffers are not archived. Nothing
else is lost (`Report.ofArchived?_archived`).
-/

namespace Crosscheck

open Json

/-! ### Fields and plain values -/

namespace Json

variable {depth n : Nat}

theorem forall_mem_fieldIf {α : Type} {P : Json → Prop} {write : α → Json} (h : ∀ a, P (write a))
    (name : String) (o : Option α) : ∀ field ∈ fieldIf name write o, P field.2 := by
  cases o with
  | none => nofun
  | some a => simpa [fieldIf] using h a

@[simp] theorem isPlain_ofString (depth : Nat) (s : String) : (ofString s).isPlain depth = true := by
  cases depth <;> rfl

theorem isPlain_ofNat (depth : Nat) (h : n < UInt64.size) : (ofNat n).isPlain depth = true := by
  have hfinite : n < JsonNumber.doubleLimit := Nat.lt_trans h (by decide)
  cases depth <;> simp [ofNat, isPlain, JsonNumber.isFinite, hfinite]

theorem isPlain_array {items : List Json} (h : ∀ item ∈ items, item.isPlain depth = true) :
    (array items).isPlain (depth + 1) = true := by
  rw [isPlain, List.all_eq_true]
  rintro ⟨item, hitem⟩ -
  exact h item hitem

theorem isPlain_ofFields {fields : List (String × Json)}
    (h : ∀ field ∈ fields, field.2.isPlain depth = true) :
    (ofFields fields).isPlain (depth + 1) = true := by
  rw [ofFields, isPlain, List.all_eq_true]
  rintro ⟨⟨key, value⟩, hmember⟩ -
  obtain ⟨field, hfield, heq⟩ := List.mem_map.1 hmember
  obtain ⟨rfl, rfl⟩ := Prod.mk.inj heq
  simpa using h field hfield

end Json

/-! ### Keys -/

namespace BitField

theorem ofJson?_toJson (f : BitField) : ofJson? f.toJson = some f := by
  rw [ofJson?, toJson, record?_ofFields]
  · simp [fieldOf, List.lookup_cons, Member.required, below?_ofNat (UInt32.toNat_lt_size _)]
  · simp

theorem textual_toJson (f : BitField) : f.toJson.Textual := by
  refine .ofFields ?_
  simp only [List.forall_mem_cons, List.not_mem_nil, false_implies, implies_true, and_true]
  exact ⟨.number _, .number _⟩

end BitField

namespace PointKey

theorem ofJson?_toJson {k : PointKey} (h : k.index < UInt64.size) : ofJson? k.toJson = some k := by
  obtain ⟨index, name, template, opcode, operation, type, bitField, seed⟩ := k
  rw [ofJson?, toJson]
  cases bitField with
  | none =>
      rw [record?_ofFields]
      · simp [fieldIf, ofWord, fieldOf, List.lookup_cons, Member.required, Member.optional,
          count?_ofNat h]
      · simp [fieldIf]
  | some field =>
      have hfield : nullable BitField.ofJson? field.toJson = some (some field) :=
        nullable_of_some (ofFields_ne_null _) field.ofJson?_toJson
      rw [record?_ofFields]
      · simp [fieldIf, ofWord, fieldOf, List.lookup_cons, Member.required, Member.optional,
          count?_ofNat h, hfield]
      · simp [fieldIf]

theorem textual_toJson (k : PointKey) : k.toJson.Textual := by
  refine .ofFields (List.forall_mem_append.2 ⟨List.forall_mem_append.2
    ⟨?_, forall_mem_fieldIf BitField.textual_toJson _ _⟩, ?_⟩)
  · simp only [List.forall_mem_cons, List.not_mem_nil, false_implies, implies_true, and_true]
    exact ⟨.number _, .text _, .text _, .text _, .text _, .text _⟩
  · exact List.forall_mem_singleton.2 (.number _)

end PointKey

/-! ### Outcomes -/

namespace ElementMismatch

theorem ofJson?_toJson {m : ElementMismatch} (h : m.index < UInt64.size) :
    ofJson? m.toJson = some m := by
  obtain ⟨index, inputs, expected, actual, ulp⟩ := m
  have hinputs : list? string? (.array (inputs.map ofString)) = some inputs :=
    list?_array_map fun s _ => string?_ofString s
  rw [ofJson?, toJson]
  cases ulp with
  | none =>
      rw [record?_ofFields]
      · simp [fieldIf, fieldOf, List.lookup_cons, Member.required, Member.optional,
          count?_ofNat h, hinputs]
      · simp [fieldIf]
  | some d =>
      have hdistance : nullable word? (ofNat d.toNat) = some (some d) :=
        nullable_of_some (ofNat_ne_null _) (word?_ofNat d)
      rw [record?_ofFields]
      · simp [fieldIf, ofWord, fieldOf, List.lookup_cons, Member.required, Member.optional,
          count?_ofNat h, hinputs, hdistance]
      · simp [fieldIf]

/-- What holds of the numbers, the texts and the list of texts holds of all fields. -/
theorem forall_fields (m : ElementMismatch) (P : Json → Prop) (hindex : P (ofNat m.index))
    (htext : ∀ s, P (ofString s)) (hinputs : P (.array (m.inputs.map ofString)))
    (hulp : ∀ d, P (ofWord d)) :
    ∀ field ∈ [("index", ofNat m.index), ("inputs", .array (m.inputs.map ofString)),
        ("expected", ofString m.expected), ("actual", ofString m.actual)] ++
          fieldIf "ulp" ofWord m.ulp, P field.2 := by
  refine List.forall_mem_append.2 ⟨?_, forall_mem_fieldIf hulp _ _⟩
  simp only [List.forall_mem_cons, List.not_mem_nil, false_implies, implies_true, and_true]
  exact ⟨hindex, hinputs, htext _, htext _⟩

theorem textual_toJson (m : ElementMismatch) : m.toJson.Textual :=
  .ofFields (m.forall_fields Textual (.number _) .text (.array_map .text _) fun _ => .number _)

theorem isPlain_toJson (depth : Nat) {m : ElementMismatch} (h : m.index < UInt64.size) :
    m.toJson.isPlain (depth + 2) = true := by
  refine isPlain_ofFields (m.forall_fields (fun j => j.isPlain (depth + 1) = true)
    (isPlain_ofNat _ h) (isPlain_ofString _) (isPlain_array ?_) fun d => isPlain_ofNat _ d.isLt)
  intro item hitem
  obtain ⟨s, -, rfl⟩ := List.mem_map.1 hitem
  exact isPlain_ofString _ s

end ElementMismatch

namespace Outcome

/-- The counts of an outcome have 64 bits. -/
def WellFormed : Outcome → Prop
  | mismatch total elements => total < UInt64.size ∧ ∀ m ∈ elements, m.index < UInt64.size
  | _ => True

/-- A written status is told from the fields that go with it. -/
theorem statusOf?_ofFields (status : String) {fields : List (String × Json)}
    (h : "status" ∉ fields.map (·.1)) :
    statusOf? (ofFields (("status", ofString status) :: fields)) = some (status, ofFields fields) := by
  have hother : ∀ member ∈ fields.map fun field => (some field.1, field.2),
      member.1 ≠ some "status" := by
    intro member hmember heq
    obtain ⟨field, hfield, rfl⟩ := List.mem_map.1 hmember
    exact h (List.mem_map.2 ⟨field, hfield, Option.some.inj heq⟩)
  have hnone : (fields.map fun field => (some field.1, field.2)).filter
      (fun member => member.1 == some "status") = [] := by
    rw [List.filter_eq_nil_iff]
    exact fun member hmember heq => hother member hmember (eq_of_beq heq)
  have hall : (fields.map fun field => (some field.1, field.2)).filter
      (fun member => member.1 != some "status") = fields.map fun field => (some field.1, field.2) := by
    rw [List.filter_eq_self]
    exact fun member hmember => bne_iff_ne.2 (hother member hmember)
  simp only [ofFields, List.map_cons, statusOf?, ofString]
  rw [List.filter_cons_of_pos (by simp), List.filter_cons_of_neg (by simp), hnone, hall]

theorem isPlain_toJson (depth : Nat) {o : Outcome} (h : o.WellFormed) :
    o.toJson.isPlain (depth + 4) = true := by
  cases o with
  | pass =>
      refine isPlain_ofFields ?_
      simp
  | mismatch total elements =>
      refine isPlain_ofFields ?_
      simp only [List.forall_mem_cons, List.not_mem_nil, false_implies, implies_true, and_true]
      refine ⟨isPlain_ofString _ _, isPlain_ofNat _ h.1, isPlain_array fun item hitem => ?_⟩
      obtain ⟨m, hm, rfl⟩ := List.mem_map.1 hitem
      exact ElementMismatch.isPlain_toJson _ (h.2 m hm)
  | executionFailure reason =>
      refine isPlain_ofFields ?_
      simp
  | generationFailure reason =>
      refine isPlain_ofFields ?_
      simp

/-- Failures of either kind have a reason and nothing else. -/
theorem record?_reason (reason : String) :
    (ofFields [("reason", ofString reason)]).record? ["reason"] =
      some [.given (ofString reason)] := by
  rw [record?_ofFields]
  · simp [fieldOf]
  · simp

theorem ofJson?_toJson (depth : Nat) {o : Outcome} (h : o.WellFormed) :
    ofJson? (depth + 4) o.toJson = some o := by
  rw [ofJson?, if_pos (isPlain_toJson depth h)]
  cases o with
  | pass => rfl
  | mismatch total elements =>
      have helements : list? ElementMismatch.ofJson?
          (.array (elements.map ElementMismatch.toJson)) = some elements :=
        list?_array_map fun m hm => ElementMismatch.ofJson?_toJson (h.2 m hm)
      rw [toJson, statusOf?_ofFields _ (by simp)]
      simp only [bind, Option.bind]
      rw [record?_ofFields]
      · simp [fieldOf, List.lookup_cons, Member.required, count?_ofNat h.1, helements]
      · simp
  | executionFailure reason =>
      rw [toJson, statusOf?_ofFields _ (by simp)]
      simp [record?_reason, Member.required]
  | generationFailure reason =>
      rw [toJson, statusOf?_ofFields _ (by simp)]
      simp [record?_reason, Member.required]

theorem textual_toJson (o : Outcome) : o.toJson.Textual := by
  cases o <;> refine .ofFields ?_ <;>
    simp only [List.forall_mem_cons, List.not_mem_nil, false_implies, implies_true, and_true]
  case pass => exact .text _
  case mismatch => exact ⟨.text _, .number _, .array_map ElementMismatch.textual_toJson _⟩
  case executionFailure => exact ⟨.text _, .text _⟩
  case generationFailure => exact ⟨.text _, .text _⟩

end Outcome

/-! ### Results -/

namespace TestResult

/-- The counts of a result have 64 bits. -/
structure WellFormed (r : TestResult) : Prop where
  index : r.point.index < UInt64.size
  elements : r.elements < UInt64.size
  outcome : r.outcome.WellFormed

/-- What is archived of a result. -/
def withoutBuffers (r : TestResult) : TestResult := { r with expected := none, actual := none }

/-- A result is read inside the report and its list of results. -/
theorem ofJson?_toJson {r : TestResult} (h : r.WellFormed) :
    ofJson? 2 r.toJson = some r.withoutBuffers := by
  have houtcome : Outcome.ofJson? (Report.maxDepth - (2 + 1)) r.outcome.toJson = some r.outcome :=
    Outcome.ofJson?_toJson 120 h.outcome
  rw [ofJson?, toJson, record?_ofFields]
  · simp [fieldOf, List.lookup_cons, Member.required, PointKey.ofJson?_toJson h.index,
      count?_ofNat h.elements, houtcome, withoutBuffers]
  · simp

theorem textual_toJson (r : TestResult) : r.toJson.Textual := by
  refine .ofFields ?_
  simp only [List.forall_mem_cons, List.not_mem_nil, false_implies, implies_true, and_true]
  exact ⟨r.point.textual_toJson, .number _, r.outcome.textual_toJson⟩

end TestResult

namespace TemplateRejection

theorem ofJson?_toJson (r : TemplateRejection) : ofJson? r.toJson = some r := by
  rw [ofJson?, toJson, record?_ofFields]
  · simp [fieldOf, List.lookup_cons, Member.required]
  · simp

theorem textual_toJson (r : TemplateRejection) : r.toJson.Textual := by
  refine .ofFields ?_
  simp only [List.forall_mem_cons, List.not_mem_nil, false_implies, implies_true, and_true]
  exact ⟨.text _, .text _⟩

end TemplateRejection

/-! ### Tables -/

namespace Tally

variable {t : Tally} {results : List TestResult}

/-- The counts of a tally have 64 bits. -/
structure WellFormed (t : Tally) : Prop where
  passed : t.passed < UInt64.size
  failed : t.failed < UInt64.size

theorem ofJson?_toJson (h : t.WellFormed) : ofJson? t.toJson = some t := by
  rw [ofJson?, toJson, record?_ofFields]
  · simp [fieldOf, List.lookup_cons, Member.required, count?_ofNat h.passed, count?_ofNat h.failed]
  · simp

theorem textual_toJson (t : Tally) : t.toJson.Textual := by
  refine .ofFields ?_
  simp only [List.forall_mem_cons, List.not_mem_nil, false_implies, implies_true, and_true]
  exact ⟨.number _, .number _⟩

theorem wellFormed_ofResults (h : results.length < UInt64.size) : (ofResults results).WellFormed :=
  ⟨Nat.lt_of_le_of_lt List.countP_le_length h, Nat.lt_of_le_of_lt List.countP_le_length h⟩

end Tally

namespace TallyTable

variable {table : TallyTable} {results : List TestResult}

/-- The names of a table are in order, and its counts have 64 bits. -/
structure WellFormed (table : TallyTable) : Prop where
  ascending : table.names.Pairwise (· < ·)
  tallies : ∀ row ∈ table, row.2.WellFormed

theorem insert_last {name : String} (h : ∀ other ∈ table.names, other < name) (t : Tally) :
    insert name t table = table ++ [(name, t)] := by
  induction table with
  | nil => rfl
  | cons row table ih =>
      rw [names_cons, List.forall_mem_cons] at h
      rw [insert_of_gt h.1, ih h.2, List.cons_append]

/-- Entering the rows of a table in their order gives the table. -/
theorem foldl_insert (h : table.names.Pairwise (· < ·)) :
    table.foldl (fun entered row => insert row.1 row.2 entered) [] = table := by
  -- rows that have been entered are before the others
  have hfold : ∀ (rows entered : TallyTable), (names (entered ++ rows)).Pairwise (· < ·) →
      rows.foldl (fun entered row => insert row.1 row.2 entered) entered = entered ++ rows := by
    intro rows
    induction rows with
    | nil =>
        intro entered _
        rw [List.foldl_nil, List.append_nil]
    | cons row rows ih =>
        intro entered hascending
        have hlast : ∀ other ∈ names entered, other < row.1 := by
          rw [names, List.map_append, List.pairwise_append] at hascending
          exact fun other hother => hascending.2.2 other hother row.1 List.mem_cons_self
        rw [List.foldl_cons, insert_last hlast, ih _ (by rwa [List.append_assoc]), List.append_assoc]
        rfl
  exact hfold table [] h

theorem ofJson?_toJson (h : table.WellFormed) : ofJson? table.toJson = some table := by
  rw [ofJson?, toJson, table?_ofFields fun row hrow => Tally.ofJson?_toJson (h.tallies row hrow),
    foldl_insert h.ascending]

theorem textual_toJson (table : TallyTable) : table.toJson.Textual := by
  refine .ofFields fun field hfield => ?_
  obtain ⟨row, -, rfl⟩ := List.mem_map.1 hfield
  exact row.2.textual_toJson

theorem wellFormed_ofResults (label : PointKey → String) (h : results.length < UInt64.size) :
    (ofResults label results).WellFormed := by
  refine ⟨?_, fun row hrow => ?_⟩
  · rw [names_ofResults]
    exact pairwise_ascendingTexts _
  · obtain ⟨name, -, rfl⟩ := List.mem_map.1 hrow
    exact Tally.wellFormed_ofResults (Nat.lt_of_le_of_lt (List.length_filter_le _ _) h)

end TallyTable

/-! ### Summaries -/

namespace Summary

variable {s : Summary} {results : List TestResult}

/-- The counts of a summary have 64 bits, and its tables are in order. -/
structure WellFormed (s : Summary) : Prop where
  total : s.total < UInt64.size
  passed : s.passed < UInt64.size
  mismatched : s.mismatched < UInt64.size
  executionFailures : s.executionFailures < UInt64.size
  generationFailures : s.generationFailures < UInt64.size
  rejectedTemplates : s.rejectedTemplates < UInt64.size
  byTemplate : s.byTemplate.WellFormed
  byType : s.byType.WellFormed
  byOperation : s.byOperation.WellFormed

theorem ofJson?_toJson (h : s.WellFormed) : ofJson? s.toJson = some s := by
  rw [ofJson?, toJson, record?_ofFields]
  · simp [fieldOf, List.lookup_cons, Member.required, count?_ofNat h.total, count?_ofNat h.passed,
      count?_ofNat h.mismatched, count?_ofNat h.executionFailures,
      count?_ofNat h.generationFailures, count?_ofNat h.rejectedTemplates,
      TallyTable.ofJson?_toJson h.byTemplate, TallyTable.ofJson?_toJson h.byType,
      TallyTable.ofJson?_toJson h.byOperation]
  · simp

theorem textual_toJson (s : Summary) : s.toJson.Textual := by
  refine .ofFields ?_
  simp only [List.forall_mem_cons, List.not_mem_nil, false_implies, implies_true, and_true]
  exact ⟨.number _, .number _, .number _, .number _, .number _, .number _,
    s.byTemplate.textual_toJson, s.byType.textual_toJson, s.byOperation.textual_toJson⟩

theorem wellFormed_ofResults {rejected : Nat} (hresults : results.length < UInt64.size)
    (hrejected : rejected < UInt64.size) : (ofResults results rejected).WellFormed := by
  rw [ofResults_eq_counted]
  exact {
    total := hresults
    passed := Nat.lt_of_le_of_lt List.countP_le_length hresults
    mismatched := Nat.lt_of_le_of_lt List.countP_le_length hresults
    executionFailures := Nat.lt_of_le_of_lt List.countP_le_length hresults
    generationFailures := Nat.lt_of_le_of_lt List.countP_le_length hresults
    rejectedTemplates := hrejected
    byTemplate := TallyTable.wellFormed_ofResults _ hresults
    byType := TallyTable.wellFormed_ofResults _ hresults
    byOperation := TallyTable.wellFormed_ofResults _ hresults }

end Summary

/-! ### Reports -/

namespace Report

variable {r : Report}

/-- The counts of a report have 64 bits, and its tables are in order. -/
structure WellFormed (r : Report) : Prop where
  results : ∀ result ∈ r.results, result.WellFormed
  summary : r.summary.WellFormed

/-- What is archived of a report. -/
def withoutBuffers (r : Report) : Report :=
  { r with results := r.results.map TestResult.withoutBuffers }

theorem ofJson?_toJson (h : r.WellFormed) : ofJson? r.toJson = some r.withoutBuffers := by
  have hresults : list? (TestResult.ofJson? 2) (.array (r.results.map TestResult.toJson)) =
      some (r.results.map TestResult.withoutBuffers) :=
    list?_array_map_of fun result hresult => TestResult.ofJson?_toJson (h.results result hresult)
  have hrejected : list? TemplateRejection.ofJson?
      (.array (r.rejected.map TemplateRejection.toJson)) = some r.rejected :=
    list?_array_map fun rejection _ => rejection.ofJson?_toJson
  rw [ofJson?, toJson, record?_ofFields]
  · simp [ofWord, fieldOf, List.lookup_cons, Member.required, hresults, hrejected,
      Summary.ofJson?_toJson h.summary, withoutBuffers]
  · simp

theorem textual_toJson (r : Report) : r.toJson.Textual := by
  refine .ofFields ?_
  simp only [List.forall_mem_cons, List.not_mem_nil, false_implies, implies_true, and_true]
  exact ⟨.number _, .array_map TestResult.textual_toJson _,
    .array_map TemplateRejection.textual_toJson _, r.summary.textual_toJson⟩

/-- Reports on runs are well-formed. -/
theorem wellFormed_ofResults (seed : Word) {results : List TestResult}
    {rejected : List TemplateRejection} (h : ∀ result ∈ results, result.WellFormed)
    (hresults : results.length < UInt64.size) (hrejected : rejected.length < UInt64.size) :
    (ofResults seed results rejected).WellFormed := by
  refine ⟨fun result hresult => h result (List.mem_mergeSort.1 hresult), ?_⟩
  exact Summary.wellFormed_ofResults (by rwa [List.length_mergeSort]) hrejected

/-- Texts show no buffers. -/
theorem text_withoutBuffers (r : Report) (verbose : Bool) :
    r.withoutBuffers.text verbose = r.text verbose := by
  have hlines : ∀ results : List TestResult,
      (results.map TestResult.withoutBuffers).map resultLines = results.map resultLines := by
    intro results
    rw [List.map_map]
    rfl
  have hfailures : r.withoutBuffers.failures = r.failures.map TestResult.withoutBuffers := by
    rw [failures, withoutBuffers, List.filter_map]
    rfl
  simp only [text, hfailures]
  cases verbose with
  | false =>
      simp only [Bool.false_eq_true, if_false, hlines]
      rfl
  | true => simp only [if_true, withoutBuffers, hlines]

/-- **An archived report is read back**, without the buffers that were compared and otherwise the same.
It renders to the same texts and gives the same verdict. -/
theorem ofArchived?_archived {r : Report} (h : r.WellFormed) :
    ofArchived? r.archived = some r.withoutBuffers ∧
      (∀ verbose, r.withoutBuffers.text verbose = r.text verbose) ∧
      r.withoutBuffers.allPassed = r.allPassed := by
  refine ⟨?_, r.text_withoutBuffers, rfl⟩
  have hread := ofText?_render r.textual_toJson true (List.forall_mem_nil _)
  rw [List.append_nil] at hread
  rw [ofArchived?, archived, pretty, hread, Option.bind_some, ofJson?_toJson h]

/-- Results of all four kinds, with and without a bit field and a distance. -/
theorem ofArchived?_archived_mixed :
    let key : PointKey := ⟨UInt64.size - 1, "t/bfe.s32/p4_l4294967295", "t", "bfe.s32", "bfe", "s32",
      some ⟨4, 0xFFFFFFFF⟩, 0xFFFFFFFFFFFFFFFF⟩
    let buffer := Buffer.ofWords "out" (.ofWidth "s32" 32 .signed) [1, 2]
    let report := ofResults 7
      [⟨key, 2, .mismatch 2 [⟨0, ["1 (0x1)"], "", "\"\n", some 0xFFFFFFFFFFFFFFFF⟩,
          ⟨1, [], "é", "", none⟩], some buffer, some buffer⟩,
        ⟨{ key with index := 0, bitField := none }, 0, .pass, some buffer, some buffer⟩,
        ⟨{ key with index := 1 }, 2, .executionFailure "timeout", none, none⟩,
        ⟨{ key with template := "s" }, 2, .generationFailure "\\", none, none⟩]
      [⟨"", "no\tkernel"⟩]
    report.WellFormed ∧ ofArchived? report.archived = some report.withoutBuffers ∧
      report.withoutBuffers.text true = report.text true ∧
      report.withoutBuffers.allPassed = report.allPassed := by
  intro key buffer report
  have hreport : report.WellFormed := by
    refine wellFormed_ofResults 7 ?_ (by decide) (by decide)
    simp only [List.forall_mem_cons, List.not_mem_nil, false_implies, implies_true, and_true]
    refine ⟨⟨by decide, by decide, by decide, ?_⟩, ⟨by decide, by decide, trivial⟩,
      ⟨by decide, by decide, trivial⟩, ⟨by decide, by decide, trivial⟩⟩
    simp only [List.forall_mem_cons, List.not_mem_nil, false_implies, implies_true, and_true]
    decide
  obtain ⟨hread, htext, hpassed⟩ := ofArchived?_archived hreport
  exact ⟨hreport, hread, htext true, hpassed⟩

end Report

end Crosscheck
