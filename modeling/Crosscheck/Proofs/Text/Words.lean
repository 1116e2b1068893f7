import Crosscheck.Text.Blank
import Mathlib.Data.List.TakeWhile

/-!
# Crosscheck.Proofs.Text.Words

**The words of a text, cut where they stand.** A word stands between blanks or the ends of the text
(`StartsBlank`, `EndsBlank`). Texts that meet at a blank have their words one after the other
(`words_append`), and conversely each word of a text is found at a place where it stands
(`exists_of_words_eq_append`).
-/

namespace Crosscheck.Text

variable {before after gap w v as bs cs : List Char} {ws vs : List (List Char)} {c : Char}

/-- The text is empty or begins with a blank. -/
def StartsBlank (cs : List Char) : Prop := cs.head?.all isBlank = true

instance (cs : List Char) : Decidable (StartsBlank cs) :=
  inferInstanceAs (Decidable (cs.head?.all isBlank = true))

/-- The text is empty or ends with a blank. -/
def EndsBlank (cs : List Char) : Prop := cs.getLast?.all isBlank = true

instance (cs : List Char) : Decidable (EndsBlank cs) :=
  inferInstanceAs (Decidable (cs.getLast?.all isBlank = true))

@[simp] theorem startsBlank_nil : StartsBlank [] := rfl

@[simp] theorem startsBlank_cons : StartsBlank (c :: cs) ↔ isBlank c = true := Iff.rfl

@[simp] theorem endsBlank_nil : EndsBlank [] := rfl

@[simp] theorem endsBlank_concat : EndsBlank (cs ++ [c]) ↔ isBlank c = true := by
  rw [EndsBlank, List.getLast?_concat, Option.all_some]

/-! ### The scan -/

/-- A blank ends the word that is being read, and a new scan begins behind it. -/
theorem fieldsFrom_append {sep : Char → Bool} (hc : sep c = true) (word as bs : List Char) :
    fieldsFrom sep word (as ++ c :: bs) = fieldsFrom sep word as ++ fieldsFrom sep [] bs := by
  induction as generalizing word with
  | nil =>
      rw [List.nil_append, fieldsFrom.eq_def, fieldsFrom.eq_def sep word []]
      by_cases hword : word.isEmpty = true
      · simp [hc, hword]
      · simp [hc, hword]
  | cons a as ih =>
      rw [List.cons_append, fieldsFrom, fieldsFrom]
      by_cases ha : sep a = true
      · by_cases hword : word.isEmpty = true
        · simp [ha, hword, ih]
        · simp [ha, hword, ih]
      · simp [ha, ih]

/-- Without a blank, the scan goes on with the word that is being read. -/
theorem fieldsFrom_of_forall_not {sep : Char → Bool} {word : List Char}
    (h : ∀ c ∈ cs, sep c = false) (hne : word ++ cs ≠ []) :
    fieldsFrom sep word cs = [word.reverse ++ cs] := by
  induction cs generalizing word with
  | nil =>
      have hword : word ≠ [] := by simpa using hne
      simp [fieldsFrom, hword]
  | cons c cs ih =>
      have hc : sep c = false := h c (by simp)
      rw [fieldsFrom, if_neg (by simp [hc]), ih (fun d hd => h d (by simp [hd])) (by simp)]
      simp

/-! ### Words -/

theorem words_append_cons (hc : isBlank c = true) (as bs : List Char) :
    words (as ++ c :: bs) = words as ++ words bs :=
  fieldsFrom_append hc [] as bs

theorem words_cons_blank (hc : isBlank c = true) (cs : List Char) : words (c :: cs) = words cs :=
  words_append_cons hc [] cs

theorem words_append_of_startsBlank (as : List Char) (h : StartsBlank bs) :
    words (as ++ bs) = words as ++ words bs := by
  cases bs with
  | nil =>
      have hnil : words [] = [] := rfl
      rw [List.append_nil, hnil, List.append_nil]
  | cons c bs =>
      have hc : isBlank c = true := startsBlank_cons.1 h
      rw [words_append_cons hc, words_cons_blank hc]

theorem words_append_of_endsBlank (h : EndsBlank as) (bs : List Char) :
    words (as ++ bs) = words as ++ words bs := by
  rcases List.eq_nil_or_concat as with rfl | ⟨as, c, rfl⟩
  · rfl
  · rw [List.concat_eq_append] at h ⊢
    have hc : isBlank c = true := endsBlank_concat.1 h
    have hend : words (as ++ [c]) = words as := by
      rw [words_append_cons hc]
      exact List.append_nil _
    rw [hend, List.append_assoc, List.singleton_append, words_append_cons hc]

theorem words_of_blanks (h : ∀ c ∈ gap, isBlank c = true) : words gap = [] := by
  induction gap with
  | nil => rfl
  | cons c gap ih =>
      rw [words_cons_blank (h c (by simp))]
      exact ih fun d hd => h d (by simp [hd])

theorem words_of_word (hne : w ≠ []) (h : ∀ c ∈ w, isBlank c = false) : words w = [w] := by
  rw [words, fieldsFrom_of_forall_not h (by simpa using hne), List.reverse_nil, List.nil_append]

theorem startsBlank_of_blanks (h : ∀ c ∈ gap, isBlank c = true) (hgap : gap ≠ []) (cs : List Char) :
    StartsBlank (gap ++ cs) := by
  obtain ⟨c, rest, rfl⟩ := List.exists_cons_of_ne_nil hgap
  exact startsBlank_cons.2 (h c (by simp))

theorem endsBlank_of_blanks (h : ∀ c ∈ gap, isBlank c = true) : EndsBlank gap := by
  rcases List.eq_nil_or_concat gap with rfl | ⟨init, c, rfl⟩
  · exact endsBlank_nil
  · rw [List.concat_eq_append] at h ⊢
    exact endsBlank_concat.2 (h c (by simp))

theorem EndsBlank.append (h : EndsBlank bs) (hne : bs ≠ []) (as : List Char) : EndsBlank (as ++ bs) := by
  obtain ⟨init, c, rfl⟩ := (List.eq_nil_or_concat bs).resolve_left hne
  rw [List.concat_eq_append] at h ⊢
  rw [← List.append_assoc]
  exact endsBlank_concat.2 (endsBlank_concat.1 h)

/-- A word that stands between blanks is one of the words. -/
theorem words_append (hbefore : EndsBlank before) (hne : w ≠ []) (hw : ∀ c ∈ w, isBlank c = false)
    (hafter : StartsBlank after) :
    words (before ++ (w ++ after)) = words before ++ w :: words after := by
  rw [words_append_of_endsBlank hbefore, words_append_of_startsBlank w hafter, words_of_word hne hw,
    List.singleton_append]

/-! ### Places of words -/

theorem startsBlank_dropWhile (cs : List Char) : StartsBlank (cs.dropWhile fun c => !isBlank c) := by
  have hnot := List.head?_dropWhile_not (fun c => !isBlank c) cs
  cases hrest : cs.dropWhile fun c => !isBlank c with
  | nil => exact startsBlank_nil
  | cons c rest =>
      rw [hrest] at hnot
      exact startsBlank_cons.2 (by simpa using hnot)

/-- Where a blank is due, no word begins: there is a blank in front of it. -/
theorem StartsBlank.of_append_word (h : StartsBlank (before ++ (w ++ after))) (hne : w ≠ [])
    (hw : ∀ c ∈ w, isBlank c = false) : before ≠ [] ∧ StartsBlank before := by
  cases before with
  | nil =>
      obtain ⟨c, rest, rfl⟩ := List.exists_cons_of_ne_nil hne
      have hblank : isBlank c = true := startsBlank_cons.1 h
      rw [hw c (by simp)] at hblank
      cases hblank
  | cons c before => exact ⟨by simp, startsBlank_cons.2 (startsBlank_cons.1 h)⟩

/-- The first word stands behind blanks. -/
theorem exists_of_words_eq_cons (h : words cs = w :: vs) :
    ∃ gap after, cs = gap ++ (w ++ after) ∧ (∀ c ∈ gap, isBlank c = true) ∧
      (w ≠ [] ∧ ∀ c ∈ w, isBlank c = false) ∧ StartsBlank after ∧ words after = vs := by
  -- the blanks in front, and the characters up to the next blank
  have hgap : ∀ c ∈ cs.takeWhile isBlank, isBlank c = true := fun c hc => List.mem_takeWhile_imp hc
  have hsplit : cs = cs.takeWhile isBlank ++ cs.dropWhile isBlank :=
    List.takeWhile_append_dropWhile.symm
  have hfirst := List.head?_dropWhile_not isBlank cs
  rw [hsplit, words_append_of_endsBlank (endsBlank_of_blanks hgap), words_of_blanks hgap,
    List.nil_append] at h
  cases hrest : cs.dropWhile isBlank with
  | nil =>
      rw [hrest] at h
      cases h
  | cons c rest =>
      rw [hrest] at h hfirst
      have hc : isBlank c = false := hfirst
      let word := (c :: rest).takeWhile fun c => !isBlank c
      let after := (c :: rest).dropWhile fun c => !isBlank c
      have hword : c :: rest = word ++ after := List.takeWhile_append_dropWhile.symm
      have hne : word ≠ [] := by simp [word, hc]
      have hchars : ∀ d ∈ word, isBlank d = false := by
        intro d hd
        have hnot := List.mem_takeWhile_imp hd
        simpa using hnot
      have hafter : StartsBlank after := startsBlank_dropWhile _
      rw [hword, words_append_of_startsBlank word hafter, words_of_word hne hchars] at h
      obtain ⟨rfl, hvs⟩ := List.cons.inj h
      exact ⟨_, after, by rw [← hword, ← hrest, ← hsplit], hgap, ⟨hne, hchars⟩, hafter, hvs⟩

/-- **Each word of a text stands between blanks**, and the words around it are those of the texts
around it. -/
theorem exists_of_words_eq_append (h : words cs = ws ++ w :: vs) :
    ∃ before after, cs = before ++ (w ++ after) ∧ EndsBlank before ∧
      (w ≠ [] ∧ ∀ c ∈ w, isBlank c = false) ∧ StartsBlank after ∧
      words before = ws ∧ words after = vs := by
  induction ws generalizing cs with
  | nil =>
      obtain ⟨gap, after, rfl, hgap, hw, hafter, hvs⟩ := exists_of_words_eq_cons h
      exact ⟨gap, after, rfl, endsBlank_of_blanks hgap, hw, hafter, words_of_blanks hgap, hvs⟩
  | cons v ws ih =>
      obtain ⟨gap, rest, rfl, hgap, hv, hrest, hws⟩ := exists_of_words_eq_cons h
      obtain ⟨before, after, rfl, hbefore, hw, hafter, hwords, hvs⟩ := ih hws
      obtain ⟨hne, hstarts⟩ := hrest.of_append_word hw.1 hw.2
      have hends : EndsBlank (gap ++ (v ++ before)) := by
        rw [← List.append_assoc]
        exact hbefore.append hne _
      refine ⟨gap ++ (v ++ before), after, by simp, hends, hw, hafter, ?_, hvs⟩
      rw [words_append (endsBlank_of_blanks hgap) hv.1 hv.2 hstarts, words_of_blanks hgap,
        List.nil_append, hwords]

end Crosscheck.Text
