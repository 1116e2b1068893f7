import Mathlib.Data.List.Forall2

/-!
# Crosscheck.Proofs.List

**Searching lists and running along them.** Looking up an element by its key, the numbers of elements,
and computations that may fail at an element: they succeed with one result for each element, or fail as
the first element does that fails.
-/

namespace Crosscheck

/-- In a list without repeated keys, looking for the key of an element finds the element. -/
theorem find?_of_nodup_map {f : α → String} {as : List α} {a : α} (h : (as.map f).Nodup)
    (ha : a ∈ as) : as.find? (f · == f a) = some a := by
  induction as with
  | nil => simp at ha
  | cons b as ih =>
      rw [List.map_cons, List.nodup_cons] at h
      rcases List.mem_cons.1 ha with rfl | ha
      · simp
      · have hne : f b ≠ f a := fun heq => h.1 (heq ▸ List.mem_map_of_mem ha)
        rw [List.find?_cons_of_neg (by simpa using hne), ih h.2 ha]

/-- Elements are numbered in ascending order. -/
theorem pairwise_zipIdx (as : List α) : as.zipIdx.Pairwise fun x y => x.2 < y.2 := by
  have hnumbers : (as.zipIdx.map Prod.snd).Pairwise (· < ·) := by
    rw [List.zipIdx_map_snd]
    exact List.pairwise_lt_range'
  exact List.pairwise_map.1 hnumbers

end Crosscheck

/-- A step that is defined on the elements of a list is a map. -/
theorem Option.mapM_eq_some {f : α → Option β} {g : α → β} {as : List α}
    (h : ∀ a ∈ as, f a = some (g a)) : as.mapM f = some (as.map g) := by
  induction as with
  | nil => rfl
  | cons a as ih =>
      rw [List.mapM_cons, h a (by simp), ih fun b hb => h b (List.mem_cons_of_mem _ hb)]
      rfl

namespace Except

variable {ε α β σ : Type}

@[simp] theorem ok_bind (a : α) (f : α → Except ε β) : (Except.ok a >>= f) = f a := rfl

@[simp] theorem error_bind (e : ε) (f : α → Except ε β) : (Except.error e >>= f) = .error e := rfl

/-- A sequence of two steps succeeds if both do. -/
theorem bind_eq_ok {x : Except ε α} {f : α → Except ε β} {b : β} :
    (x >>= f) = .ok b ↔ ∃ a, x = .ok a ∧ f a = .ok b := by
  cases x <;> simp

/-- A sequence of two steps fails where the first one does, or else the second. -/
theorem bind_eq_error {x : Except ε α} {f : α → Except ε β} {e : ε} :
    (x >>= f) = .error e ↔ x = .error e ∨ ∃ a, x = .ok a ∧ f a = .error e := by
  cases x <;> simp

/-- A step that never fails on the elements of a list is a map. -/
theorem mapM_eq_ok {f : α → Except ε β} {g : α → β} {as : List α} (h : ∀ a ∈ as, f a = .ok (g a)) :
    as.mapM f = .ok (as.map g) := by
  induction as with
  | nil => rfl
  | cons a as ih =>
      rw [List.mapM_cons, h a (by simp), ok_bind, ih fun b hb => h b (List.mem_cons_of_mem _ hb)]
      rfl

/-- A run along a list succeeds if it does on each element. -/
theorem mapM_eq_ok_iff {f : α → Except ε β} {as : List α} {bs : List β} :
    as.mapM f = .ok bs ↔ List.Forall₂ (fun a b => f a = .ok b) as bs := by
  induction as generalizing bs with
  | nil =>
      rw [List.mapM_nil, List.forall₂_nil_left_iff]
      exact ⟨fun h => (ok.inj h).symm, fun h => congrArg ok h.symm⟩
  | cons a as ih =>
      simp only [List.mapM_cons, bind_eq_ok, ih, List.forall₂_cons_left_iff]
      constructor
      · rintro ⟨b, hb, bs, hbs, h⟩
        exact ⟨b, bs, hb, hbs, (ok.inj h).symm⟩
      · rintro ⟨b, bs, hb, hbs, rfl⟩
        exact ⟨b, hb, bs, hbs, rfl⟩

theorem exists_mapM_eq_ok_iff {f : α → Except ε β} {as : List α} :
    (∃ bs, as.mapM f = .ok bs) ↔ ∀ a ∈ as, ∃ b, f a = .ok b := by
  induction as with
  | nil => simp [pure, Except.pure]
  | cons a as ih =>
      rw [List.forall_mem_cons, ← ih]
      simp [List.mapM_cons, bind_eq_ok, pure, Except.pure]

theorem mapM_congr {f g : α → Except ε β} {as : List α} (h : ∀ a ∈ as, f a = g a) :
    as.mapM f = as.mapM g := by
  induction as with
  | nil => rfl
  | cons a as ih =>
      rw [List.mapM_cons, List.mapM_cons, h a (by simp), ih fun b hb => h b (List.mem_cons_of_mem _ hb)]

/-- Another run has the results of one that succeeds if each of its steps has. -/
theorem mapM_eq_ok_congr_iff {f g : α → Except ε β} {as : List α} {bs : List β}
    (h : as.mapM f = .ok bs) : as.mapM g = .ok bs ↔ ∀ a ∈ as, g a = f a := by
  refine ⟨fun hg => ?_, fun hsame => (mapM_congr hsame).trans h⟩
  rw [mapM_eq_ok_iff] at h hg
  induction h with
  | nil => nofun
  | cons hb _ ih =>
      obtain ⟨hb', hg⟩ := List.forall₂_cons.1 hg
      exact List.forall_mem_cons.2 ⟨hb'.trans hb.symm, ih hg⟩

/-- A run along a list fails as the first element does that fails. -/
theorem mapM_eq_error_iff {f : α → Except ε β} {as : List α} {e : ε} :
    as.mapM f = .error e ↔ ∃ before a after, as = before ++ a :: after ∧
      (∀ b ∈ before, ∃ c, f b = .ok c) ∧ f a = .error e := by
  induction as with
  | nil =>
      rw [List.mapM_nil]
      refine ⟨nofun, ?_⟩
      rintro ⟨before, a, after, h, -⟩
      cases before <;> cases h
  | cons a as ih =>
      have hcons : (a :: as).mapM f = .error e ↔
          f a = .error e ∨ (∃ c, f a = .ok c) ∧ as.mapM f = .error e := by
        simp [List.mapM_cons, bind_eq_error, pure, Except.pure]
      rw [hcons, ih]
      constructor
      · rintro (ha | ⟨ha, before, b, after, rfl, hbefore, hb⟩)
        · exact ⟨[], a, as, rfl, nofun, ha⟩
        · exact ⟨a :: before, b, after, rfl, List.forall_mem_cons.2 ⟨ha, hbefore⟩, hb⟩
      · rintro ⟨before, b, after, h, hbefore, hb⟩
        cases before with
        | nil =>
            obtain ⟨rfl, -⟩ := List.cons.inj h
            exact .inl hb
        | cons c before =>
            obtain ⟨rfl, rfl⟩ := List.cons.inj h
            obtain ⟨ha, hbefore⟩ := List.forall_mem_cons.1 hbefore
            exact .inr ⟨ha, before, b, after, rfl, hbefore, hb⟩

/-- Elements on which a step changes nothing can be left out of a run. -/
theorem foldlM_filter {step : σ → α → Except ε σ} {keep : α → Bool} {as : List α}
    (h : ∀ a ∈ as, keep a = false → ∀ s, step s a = .ok s) (s : σ) :
    as.foldlM step s = (as.filter keep).foldlM step s := by
  induction as generalizing s with
  | nil => rfl
  | cons a as ih =>
      have ih := fun s => ih (fun b hb => h b (List.mem_cons_of_mem _ hb)) s
      rw [List.foldlM_cons]
      cases hkeep : keep a with
      | true => simp only [List.filter_cons_of_pos hkeep, List.foldlM_cons, ih]
      | false =>
          rw [h a (by simp) hkeep, ok_bind, ih, List.filter_cons_of_neg (by simp [hkeep])]

end Except
