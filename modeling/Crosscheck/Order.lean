/-!
# Crosscheck.Order

**Ascending lists without repetitions.** Sets that are listed in order (bit fields, shift amounts,
placeholder names, report rows) are built by inserting elements one by one.
-/

namespace Crosscheck

/-- Inserts an element into an ascending list; one that is there already stays as it is. -/
def insertAscending (before : α → α → Bool) (a : α) : List α → List α
  | [] => [a]
  | b :: bs =>
    if before a b then a :: b :: bs
    else if before b a then b :: insertAscending before a bs
    else b :: bs

/-- The elements of a list in ascending order, each once. -/
def ascending (before : α → α → Bool) (as : List α) : List α :=
  as.foldl (fun sorted a => insertAscending before a sorted) []

/-- The order of texts by their characters' code points. -/
def textBefore (s t : String) : Bool := decide (s < t)

/-- The values of a list in ascending order of their texts, each once. -/
def ascendingTexts (names : List String) : List String := ascending textBefore names

theorem mem_insertAscending {before : α → α → Bool}
    (h : ∀ a b, before a b = false → before b a = false → a = b) {a b : α} {as : List α} :
    b ∈ insertAscending before a as ↔ b = a ∨ b ∈ as := by
  induction as with
  | nil => simp [insertAscending]
  | cons c cs ih =>
    rw [insertAscending]
    cases hac : before a c with
    | true => simp
    | false =>
      cases hca : before c a with
      | true =>
        simp only [Bool.false_eq_true, if_false, if_true, List.mem_cons, ih]
        constructor
        · rintro (h | h | h) <;> simp [h]
        · rintro (h | h | h) <;> simp [h]
      | false => simp [h a c hac hca]

theorem mem_foldl_insertAscending {before : α → α → Bool}
    (h : ∀ a b, before a b = false → before b a = false → a = b) {b : α} {as sorted : List α} :
    b ∈ as.foldl (fun sorted a => insertAscending before a sorted) sorted ↔ b ∈ as ∨ b ∈ sorted := by
  induction as generalizing sorted with
  | nil => simp
  | cons a as ih =>
      rw [List.foldl_cons, ih, mem_insertAscending h, List.mem_cons]
      constructor
      · rintro (h | h | h) <;> simp [h]
      · rintro ((h | h) | h) <;> simp [h]

/-- Sorting keeps exactly the elements. -/
theorem mem_ascending {before : α → α → Bool}
    (h : ∀ a b, before a b = false → before b a = false → a = b) {b : α} {as : List α} :
    b ∈ ascending before as ↔ b ∈ as := by
  rw [ascending, mem_foldl_insertAscending h]
  simp

theorem eq_of_textBefore {s t : String} (hst : textBefore s t = false)
    (hts : textBefore t s = false) : s = t := by
  simp only [textBefore, decide_eq_false_iff_not, String.not_lt] at hst hts
  exact String.le_antisymm hts hst

theorem mem_ascendingTexts {name : String} {names : List String} :
    name ∈ ascendingTexts names ↔ name ∈ names :=
  mem_ascending fun _ _ => eq_of_textBefore

end Crosscheck
