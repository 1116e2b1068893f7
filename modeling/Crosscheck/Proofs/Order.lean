import Crosscheck.Order

/-!
# Crosscheck.Proofs.Order

**Ascending lists.** Inserting keeps a list ascending in whatever strict order it is built
(`pairwise_ascending`), and nothing occurs in it twice. Of texts, `ascendingTexts` depends on the set of
its elements only (`ascendingTexts_congr`), and a search along it finds the least element that is looked
for (`le_of_find?_eq_some`).
-/

namespace Crosscheck

/-! ### Any order -/

section Ascending

variable {before : α → α → Bool} {a b : α} {as : List α}

theorem of_mem_insertAscending (h : b ∈ insertAscending before a as) : b = a ∨ b ∈ as := by
  induction as with
  | nil => exact .inl (List.mem_singleton.1 h)
  | cons c as ih =>
      rw [insertAscending] at h
      split at h
      · exact List.mem_cons.1 h
      · split at h
        · rcases List.mem_cons.1 h with rfl | h
          · exact .inr List.mem_cons_self
          · exact (ih h).imp_right (List.mem_cons_of_mem _)
        · exact .inr h

variable (htrans : ∀ a b c, before a b = true → before b c = true → before a c = true)

include htrans

theorem pairwise_insertAscending (a : α) (h : as.Pairwise fun x y => before x y = true) :
    (insertAscending before a as).Pairwise fun x y => before x y = true := by
  induction as with
  | nil => exact List.pairwise_singleton _ _
  | cons b as ih =>
      obtain ⟨hleast, htail⟩ := List.pairwise_cons.1 h
      rw [insertAscending]
      cases hbefore : before a b with
      | true =>
          refine List.pairwise_cons.2 ⟨fun c hc => ?_, h⟩
          rcases List.mem_cons.1 hc with rfl | hc
          · exact hbefore
          · exact htrans a b c hbefore (hleast c hc)
      | false =>
          cases hafter : before b a with
          | true =>
              refine List.pairwise_cons.2 ⟨fun c hc => ?_, ih htail⟩
              rcases of_mem_insertAscending hc with rfl | hc
              · exact hafter
              · exact hleast c hc
          | false => exact h

theorem pairwise_ascending (as : List α) :
    (ascending before as).Pairwise fun x y => before x y = true := by
  -- the list that has been built so far is ascending
  have hfold : ∀ (as sorted : List α), sorted.Pairwise (fun x y => before x y = true) →
      (as.foldl (fun sorted a => insertAscending before a sorted) sorted).Pairwise
        fun x y => before x y = true := by
    intro as
    induction as with
    | nil =>
        intro sorted h
        exact h
    | cons a as ih =>
        intro sorted h
        exact ih _ (pairwise_insertAscending htrans a h)
  exact hfold as [] List.Pairwise.nil

theorem nodup_ascending (hirrefl : ∀ a, before a a = false) (as : List α) :
    (ascending before as).Nodup := by
  refine (pairwise_ascending htrans as).imp fun {a b} hbefore heq => ?_
  rw [heq, hirrefl b] at hbefore
  cases hbefore

end Ascending

/-! ### Texts -/

variable {name : String} {names others : List String}

theorem textBefore_trans (s t u : String) (hst : textBefore s t = true) (htu : textBefore t u = true) :
    textBefore s u = true := by
  simp only [textBefore, decide_eq_true_eq] at *
  exact String.lt_trans hst htu

theorem insertAscending_of_lt {other : String} (h : name < other) (names : List String) :
    insertAscending textBefore name (other :: names) = name :: other :: names := by
  simp [insertAscending, textBefore, h]

theorem insertAscending_of_gt {other : String} (h : other < name) (names : List String) :
    insertAscending textBefore name (other :: names) =
      other :: insertAscending textBefore name names := by
  simp [insertAscending, textBefore, h, String.lt_asymm h]

theorem insertAscending_self (name : String) (names : List String) :
    insertAscending textBefore name (name :: names) = name :: names := by
  simp [insertAscending, textBefore]

theorem pairwise_ascendingTexts (names : List String) : (ascendingTexts names).Pairwise (· < ·) :=
  (pairwise_ascending textBefore_trans names).imp fun h => of_decide_eq_true h

theorem nodup_ascendingTexts (names : List String) : (ascendingTexts names).Nodup :=
  nodup_ascending textBefore_trans (fun s => decide_eq_false (String.lt_irrefl s)) names

/-- Only the set of the texts matters. -/
theorem ascendingTexts_congr (h : ∀ name, name ∈ names ↔ name ∈ others) :
    ascendingTexts names = ascendingTexts others := by
  have hperm : (ascendingTexts names).Perm (ascendingTexts others) := by
    rw [List.perm_ext_iff_of_nodup (nodup_ascendingTexts _) (nodup_ascendingTexts _)]
    intro name
    rw [mem_ascendingTexts, mem_ascendingTexts, h]
  refine hperm.eq_of_pairwise ?_ (pairwise_ascendingTexts names) (pairwise_ascendingTexts others)
  intro a b _ _ hab hba
  exact absurd hba (String.lt_asymm hab)

/-- What is found first in an ascending list is the least that is looked for. -/
theorem le_of_find?_eq_some {p : String → Bool} (hnames : names.Pairwise (· < ·))
    (h : names.find? p = some name) {other : String} (hmem : other ∈ names) (hother : p other = true) :
    name ≤ other := by
  obtain ⟨-, before, after, rfl, hbefore⟩ := List.find?_eq_some_iff_append.1 h
  rcases List.mem_append.1 hmem with hmem | hmem
  · have hnone := hbefore other hmem
    rw [hother] at hnone
    cases hnone
  · rcases List.mem_cons.1 hmem with rfl | hmem
    · exact String.not_lt.1 (String.lt_irrefl _)
    · have htail := (List.pairwise_append.1 hnames).2.1
      exact String.not_lt.1 (String.lt_asymm ((List.pairwise_cons.1 htail).1 other hmem))

end Crosscheck
