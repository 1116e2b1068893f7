import Crosscheck.Json.Record

/-!
# Crosscheck.Proofs.Json.Record

**Written records are read again.** An object written from named fields, no name twice, has those
fields and no others (`Json.record?_ofFields`). Lists, tables, counts and words are read as written.
-/

namespace Crosscheck.Json

variable {fields : List (String × Json)}

/-- The field of a name among some fields. -/
def fieldOf (fields : List (String × Json)) (name : String) : Member :=
  match fields.lookup name with
  | some value => .given value
  | none => .absent

theorem filter_of_nodup (h : (fields.map (·.1)).Nodup) (name : String) :
    fields.filter (·.1 == name) = (fields.lookup name).toList.map fun value => (name, value) := by
  induction fields with
  | nil => rfl
  | cons field fields ih =>
      obtain ⟨key, value⟩ := field
      rw [List.map_cons, List.nodup_cons] at h
      have ih := ih h.2
      by_cases hkey : key = name
      · subst hkey
        have hnone : fields.filter (·.1 == key) = [] := by
          rw [List.filter_eq_nil_iff]
          intro field hfield heq
          exact h.1 (List.mem_map.2 ⟨field, hfield, eq_of_beq heq⟩)
        simp [hnone]
      · have hne : (name == key) = false := beq_false_of_ne (Ne.symm hkey)
        simp [List.lookup_cons, hkey, hne, ih]

theorem memberOf?_ofFields (h : (fields.map (·.1)).Nodup) (name : String) :
    memberOf? (fields.map fun field => (some field.1, field.2)) name =
      some (fieldOf fields name) := by
  have hfilter : (fields.map fun field => (some field.1, field.2)).filter
      (fun member => member.1 == some name) =
        (fields.lookup name).toList.map fun value => (some name, value) := by
    rw [List.filter_map]
    have hcomp : ((fun member : Option String × Json => member.1 == some name) ∘
        fun field : String × Json => (some field.1, field.2)) = fun field => field.1 == name := by
      funext field
      simp
    rw [hcomp, filter_of_nodup h, List.map_map]
    rfl
  rw [memberOf?, hfilter, fieldOf]
  cases fields.lookup name <;> rfl

/-- The fields of a written record. -/
theorem record?_ofFields (h : (fields.map (·.1)).Nodup) (names : List String) :
    (ofFields fields).record? names = some (names.map (fieldOf fields)) := by
  have hkeys : (fields.map fun field => (some field.1, field.2)).all
      (fun member => member.1.isSome) = true := by simp
  rw [ofFields, record?, if_pos hkeys, funext (memberOf?_ofFields h)]
  exact List.mapM_pure ..

/-- A list is read item by item. -/
theorem list?_array_map_of {α β : Type} {write : α → Json} {read : Json → Option β} {g : α → β}
    {as : List α} (h : ∀ a ∈ as, read (write a) = some (g a)) :
    list? read (.array (as.map write)) = some (as.map g) := by
  show (as.map write).mapM read = some (as.map g)
  induction as with
  | nil => rfl
  | cons a as ih =>
      rw [List.map_cons, List.mapM_cons, h a List.mem_cons_self,
        ih fun b hb => h b (List.mem_cons_of_mem _ hb)]
      rfl

/-- A list is read back if its items are. -/
theorem list?_array_map {α : Type} {write : α → Json} {read : Json → Option α} {as : List α}
    (h : ∀ a ∈ as, read (write a) = some a) : list? read (.array (as.map write)) = some as := by
  rw [list?_array_map_of h, List.map_id']

@[simp] theorem string?_ofString (s : String) : string? (ofString s) = some s := rfl

theorem below?_ofNat {limit n : Nat} (h : n < limit) : below? limit (ofNat n) = some n := by
  rw [ofNat, below?, if_pos h]

theorem count?_ofNat {n : Nat} (h : n < UInt64.size) : count? (ofNat n) = some n := below?_ofNat h

@[simp] theorem word?_ofNat (w : BitVec 64) : word? (ofNat w.toNat) = some w := by
  rw [word?, count?_ofNat w.isLt]
  simp

theorem ofFields_ne_null (fields : List (String × Json)) : ofFields fields ≠ null := by
  intro h
  cases h

theorem ofNat_ne_null (n : Nat) : ofNat n ≠ null := by
  intro h
  cases h

theorem nullable_of_some {α : Type} {read : Json → Option α} {j : Json} {a : α} (hnull : j ≠ null)
    (h : read j = some a) : nullable read j = some (some a) := by
  rw [nullable, h, Option.map_some]
  exact hnull

/-- A table is read back by entering its rows one after the other. -/
theorem table?_ofFields {α β : Type} {insert : String → α → β → β} {empty : β} {write : α → Json}
    {read : Json → Option α} {rows : List (String × α)}
    (h : ∀ row ∈ rows, read (write row.2) = some row.2) :
    table? insert empty read (ofFields (rows.map fun row => (row.1, write row.2))) =
      some (rows.foldl (fun table row => insert row.1 row.2 table) empty) := by
  rw [ofFields, table?, List.map_map]
  induction rows generalizing empty with
  | nil => rfl
  | cons row rows ih =>
      rw [List.map_cons, List.foldlM_cons, List.foldl_cons,
        ← ih fun other hother => h other (List.mem_cons_of_mem _ hother)]
      simp [h row List.mem_cons_self]

end Crosscheck.Json
