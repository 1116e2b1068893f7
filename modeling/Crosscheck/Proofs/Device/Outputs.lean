import Crosscheck.Device.Basic
import Crosscheck.Proofs.List
import Mathlib.Data.List.Nodup
import Mathlib.Data.List.Perm.Basic

/-!
# Crosscheck.Proofs.Device.Outputs

**Returned buffers are found by name.** Each shape takes a buffer out of those that are left, and the last
one moves into the gap, so what is left changes its order on the way (`takeOut_perm`). A later shape could
notice that only from the buffers of its own name: if these keep their order (`Settled`), it finds what it
would have found among all returned buffers (`checkOutputs_remaining`). If names do not repeat they do
(`settled_of_nodup`), and in which order the buffers were returned does not matter then
(`checkOutputs_by_name`).
-/

namespace Crosscheck

/-! ### Taking out -/

/-- The last element fills the gap, unless it is taken out itself. -/
theorem takeOut_concat (i : Nat) (front : List α) (last : α) :
    takeOut i (front ++ [last]) = front.set i last := by
  have hsingle : ∀ k, [last].set k last = [last] := by
    intro k
    cases k <;> rfl
  rw [takeOut, List.getLast?_concat]
  by_cases hi : i < front.length
  · simp only [List.set_append_left _ _ hi, List.dropLast_concat]
  · simp only [List.set_append_right _ _ (Nat.le_of_not_lt hi), hsingle, List.dropLast_concat]
    rw [List.set_eq_of_length_le (Nat.le_of_not_lt hi)]

/-- What is taken out and what is left are what there was, in another order. -/
theorem takeOut_perm {as : List α} {i : Nat} {a : α} (h : as[i]? = some a) :
    (a :: takeOut i as).Perm as := by
  obtain ⟨hi, ha⟩ := List.getElem?_eq_some_iff.1 h
  rcases List.eq_nil_or_concat' as with rfl | ⟨front, last, rfl⟩
  · exact absurd hi (Nat.not_lt_zero i)
  · rw [takeOut_concat]
    simp only [List.length_append, List.length_singleton] at hi
    rcases Nat.lt_succ_iff_lt_or_eq.1 hi with hlt | rfl
    · rw [List.getElem_append_left hlt] at ha
      calc (a :: front.set i last).Perm (a :: last :: front.eraseIdx i) :=
            (List.set_perm_cons_eraseIdx hlt last).cons a
        _ |>.Perm (last :: a :: front.eraseIdx i) := List.Perm.swap _ _ _
        _ |>.Perm (last :: front) := (ha ▸ List.getElem_cons_eraseIdx_perm hlt).cons last
        _ |>.Perm (front ++ [last]) := (List.perm_append_singleton last front).symm
    · rw [List.getElem_concat_length rfl] at ha
      subst ha
      rw [List.set_eq_of_length_le (Nat.le_refl _)]
      exact (List.perm_append_singleton last front).symm

/-! ### What a shape finds -/

section Lookup

variable {returned permuted : List Buffer} {name : String} {b : Buffer}

/-- If names do not repeat, a search by name finds the buffer of that name. -/
theorem find?_name_eq_some_iff (h : (returned.map (·.name)).Nodup) :
    returned.find? (·.name == name) = some b ↔ b ∈ returned ∧ b.name = name := by
  constructor
  · intro hfound
    exact ⟨List.mem_of_find?_eq_some hfound, by simpa using List.find?_some hfound⟩
  · rintro ⟨hmem, rfl⟩
    exact find?_of_nodup_map h hmem

/-- So it does not depend on the order. -/
theorem find?_name_perm (hperm : returned.Perm permuted) (h : (returned.map (·.name)).Nodup)
    (name : String) : permuted.find? (·.name == name) = returned.find? (·.name == name) := by
  have hpermuted : (permuted.map (·.name)).Nodup := ((hperm.map _).nodup_iff).1 h
  ext b
  rw [find?_name_eq_some_iff hpermuted, find?_name_eq_some_iff h, hperm.mem_iff]

end Lookup

/-! ### The buffers of one name -/

section Carriers

variable {returned : List Buffer} {name : String} {b : Buffer} {i count : Nat}

/-- The returned buffers of a name, in their order. -/
def carriers (name : String) (returned : List Buffer) : List Buffer :=
  returned.filter (·.name == name)

/-- A search by name finds the first of them. -/
theorem find?_name_eq_head? (name : String) (returned : List Buffer) :
    returned.find? (·.name == name) = (carriers name returned).head? :=
  List.head?_filter.symm

theorem carriers_concat_of_ne {front : List Buffer} {last : Buffer} (h : last.name ≠ name) :
    carriers name (front ++ [last]) = carriers name front := by
  simp [carriers, h]

/-- Replacing a buffer of another name by one of another name. -/
theorem carriers_set {front : List Buffer} {last : Buffer}
    (hgone : ∀ b, front[i]? = some b → b.name ≠ name) (hlast : last.name ≠ name) :
    carriers name (front.set i last) = carriers name front := by
  induction front generalizing i with
  | nil => rfl
  | cons b front ih =>
      cases i with
      | zero =>
          have hb : b.name ≠ name := hgone b rfl
          simp [carriers, hb, hlast]
      | succ i =>
          have ih := ih (i := i) fun c hc => hgone c (by simpa using hc)
          simp only [carriers, List.set_cons_succ, List.filter_cons] at ih ⊢
          rw [ih]

/-- The buffers of a name keep their order while `count` buffers of other names are taken out: there are no
two of them, or none is among the last `count` buffers, which are those that may move. -/
def Settled (count : Nat) (name : String) (returned : List Buffer) : Prop :=
  (carriers name returned).length ≤ 1 ∨
    ∀ b ∈ returned.drop (returned.length - count), b.name ≠ name

/-- Taking out one of the buffers leaves the order for the rest of them. -/
theorem Settled.takeOut (h : Settled (count + 1) name returned) (hb : returned[i]? = some b)
    (hne : b.name ≠ name) :
    carriers name (takeOut i returned) = carriers name returned ∧
      Settled count name (takeOut i returned) := by
  rcases h with hone | hlast
  · have hperm : (carriers name (Crosscheck.takeOut i returned)).Perm (carriers name returned) := by
      have hfilter := (takeOut_perm hb).filter (·.name == name)
      rwa [List.filter_cons_of_neg (by simpa using hne)] at hfilter
    have heq : carriers name (Crosscheck.takeOut i returned) = carriers name returned := by
      match hcarriers : carriers name returned, hone with
      | [], _ => exact List.perm_nil.1 (hcarriers ▸ hperm)
      | [c], _ => exact List.perm_singleton.1 (hcarriers ▸ hperm)
    exact ⟨heq, .inl (heq ▸ hone)⟩
  · rcases List.eq_nil_or_concat' returned with rfl | ⟨front, last, rfl⟩
    · cases hb
    · have hdrop : (front ++ [last]).drop ((front ++ [last]).length - (count + 1)) =
          front.drop (front.length - count) ++ [last] := by
        rw [List.length_append, List.length_singleton, Nat.add_sub_add_right,
          List.drop_append_of_le_length (Nat.sub_le _ _)]
      rw [hdrop] at hlast
      have hne' : last.name ≠ name := hlast last (by simp)
      have hgone : ∀ c, front[i]? = some c → c.name ≠ name := by
        intro c hc
        obtain ⟨hi, -⟩ := List.getElem?_eq_some_iff.1 hc
        rw [List.getElem?_append_left hi, hc] at hb
        exact Option.some.inj hb ▸ hne
      rw [takeOut_concat, carriers_concat_of_ne hne']
      refine ⟨carriers_set hgone hne', .inr fun c hc => ?_⟩
      rw [List.length_set, List.drop_set] at hc
      split at hc
      · exact hlast c (List.mem_append_left _ hc)
      · rcases List.mem_or_eq_of_mem_set hc with hc | rfl
        · exact hlast c (List.mem_append_left _ hc)
        · exact hne'

/-- If names do not repeat, everything is settled. -/
theorem settled_of_nodup (h : (returned.map (·.name)).Nodup) (count : Nat) (name : String) :
    Settled count name returned := by
  have hcount := List.nodup_iff_count_le_one.1 h name
  rw [List.count_eq_countP, List.countP_map, List.countP_eq_length_filter] at hcount
  exact .inl hcount

end Carriers

namespace BufferSpec

/-- What a shape makes of all returned buffers: the one of its name, checked and cut to its type. -/
def answer (returned : List Buffer) (spec : BufferSpec) : Except ExecutionFailure Buffer :=
  match returned.find? (·.name == spec.name) with
  | none => .error (.missingOutput spec.name)
  | some found => do
    spec.check found
    .ok (Buffer.ofWords spec.name spec.type found.data)

/-- Whether a buffer of the shape was returned. -/
def Met (returned : List Buffer) (spec : BufferSpec) : Prop :=
  ∃ b ∈ returned, b.name = spec.name ∧ b.length = spec.length

/-- Why a shape cannot be met. -/
inductive Refuses (returned : List Buffer) (spec : BufferSpec) : ExecutionFailure → Prop
  /-- There is no buffer of its name. -/
  | absent : (∀ b ∈ returned, b.name ≠ spec.name) → Refuses returned spec (.missingOutput spec.name)
  /-- There is one, of another length. -/
  | misshapen {b : Buffer} : b ∈ returned → b.name = spec.name → b.length ≠ spec.length →
      Refuses returned spec (.outputShape spec.name spec.length b.length)

variable {returned permuted : List Buffer} {spec : BufferSpec} {failure : ExecutionFailure} {o : Buffer}

theorem answer_congr (h : permuted.find? (·.name == spec.name) = returned.find? (·.name == spec.name)) :
    spec.answer permuted = spec.answer returned := by
  rw [answer, answer, h]

theorem answer_of_absent (h : ∀ b ∈ returned, b.name ≠ spec.name) :
    spec.answer returned = .error (.missingOutput spec.name) := by
  rw [answer, List.find?_eq_none.2 fun b hb => by simpa using h b hb]

/-- A shape is answered by the first buffer of its name. -/
theorem answer_eq_ok_iff_find? : spec.answer returned = .ok o ↔
    ∃ b, returned.find? (·.name == spec.name) = some b ∧ b.length = spec.length ∧
      o = Buffer.ofWords spec.name spec.type b.data := by
  rw [answer]
  cases returned.find? (·.name == spec.name) with
  | none => simp
  | some b =>
      simp only [check, Option.some.injEq, exists_eq_left']
      split
      · rename_i hlength
        simp [hlength, eq_comm]
      · rename_i hlength
        simp [hlength]

section Distinct

variable (h : (returned.map (·.name)).Nodup)

include h

theorem answer_of_mem {b : Buffer} (hmem : b ∈ returned) (hname : b.name = spec.name) :
    spec.answer returned =
      if b.length = spec.length then .ok (Buffer.ofWords spec.name spec.type b.data)
      else .error (.outputShape spec.name spec.length b.length) := by
  rw [answer, (find?_name_eq_some_iff h).2 ⟨hmem, hname⟩]
  simp only [check]
  split <;> rfl

/-- A shape is answered by the buffer of its name. -/
theorem answer_eq_ok_iff : spec.answer returned = .ok o ↔
    ∃ b ∈ returned, b.name = spec.name ∧ b.length = spec.length ∧
      o = Buffer.ofWords spec.name spec.type b.data := by
  simp only [answer_eq_ok_iff_find?, find?_name_eq_some_iff h, and_assoc]

theorem answer_eq_error_iff : spec.answer returned = .error failure ↔
    Refuses returned spec failure := by
  constructor
  · intro herror
    by_cases hany : ∃ b ∈ returned, b.name = spec.name
    · obtain ⟨b, hmem, hname⟩ := hany
      rw [answer_of_mem h hmem hname] at herror
      split at herror
      · cases herror
      · cases herror
        exact .misshapen hmem hname ‹_›
    · have habsent : ∀ b ∈ returned, b.name ≠ spec.name := by simpa using hany
      rw [answer_of_absent habsent] at herror
      cases herror
      exact .absent habsent
  · rintro (habsent | ⟨hmem, hname, hlength⟩)
    · exact answer_of_absent habsent
    · rw [answer_of_mem h hmem hname, if_neg hlength]

theorem exists_answer_iff : (∃ o, spec.answer returned = .ok o) ↔ spec.Met returned := by
  simp only [answer_eq_ok_iff h]
  constructor
  · rintro ⟨-, b, hmem, hname, hlength, -⟩
    exact ⟨b, hmem, hname, hlength⟩
  · rintro ⟨b, hmem, hname, hlength⟩
    exact ⟨_, b, hmem, hname, hlength, rfl⟩

theorem answer_perm (hperm : returned.Perm permuted) :
    spec.answer permuted = spec.answer returned :=
  answer_congr (find?_name_perm hperm h spec.name)

end Distinct

end BufferSpec

/-! ### All shapes -/

section Outputs

variable {specs : List BufferSpec} {spec : BufferSpec} {returned remaining permuted : List Buffer}

/-- One shape: it is answered from what there is, and the others from what it leaves. -/
theorem checkOutputs_cons (spec : BufferSpec) (specs : List BufferSpec) (returned : List Buffer) :
    checkOutputs (spec :: specs) returned = (do
      let output ← spec.answer returned
      let rest ← checkOutputs specs (takeOut (returned.findIdx (·.name == spec.name)) returned)
      .ok (output :: rest)) := by
  rw [checkOutputs, BufferSpec.answer, List.find?_eq_bind_findIdx?_getElem?]
  cases hfound : returned.findIdx? (·.name == spec.name) with
  | none => rfl
  | some i =>
      obtain ⟨hi, hname, -⟩ := List.findIdx?_eq_some_iff_getElem.1 hfound
      obtain ⟨-, hindex⟩ := List.findIdx?_eq_some_iff_findIdx_eq.1 hfound
      have hname : returned[i].name = spec.name := by simpa using hname
      simp only [Option.bind_some, List.getElem?_eq_getElem hi, hindex, hname]
      cases spec.check returned[i] <;> rfl

/-- A shape that is answered takes out a buffer of its name. -/
theorem exists_taken {o : Buffer} (h : spec.answer returned = .ok o) :
    ∃ b, returned[returned.findIdx (·.name == spec.name)]? = some b ∧ b.name = spec.name := by
  have hany : ∃ b ∈ returned, b.name = spec.name := by
    by_contra habsent
    rw [BufferSpec.answer_of_absent (by simpa using habsent)] at h
    cases h
  have hlt : returned.findIdx (·.name == spec.name) < returned.length :=
    List.findIdx_lt_length.2 (by simpa using hany)
  exact ⟨_, List.getElem?_eq_getElem hlt, by simpa using List.findIdx_getElem (w := hlt)⟩

/-- **What is left holds what later shapes look for.** As long as what is left has the buffers of each shape
to come in the order in which they were returned, and this stays so, the outputs are those found among all
returned buffers. -/
theorem checkOutputs_remaining (hspecs : (specs.map (·.name)).Nodup)
    (hsettled : ∀ k spec, specs[k]? = some spec → Settled k spec.name remaining)
    (hsame : ∀ spec ∈ specs, carriers spec.name remaining = carriers spec.name returned) :
    checkOutputs specs remaining = specs.mapM (·.answer returned) := by
  induction specs generalizing remaining with
  | nil => rfl
  | cons spec specs ih =>
      rw [List.map_cons, List.nodup_cons] at hspecs
      have hspec : spec.answer remaining = spec.answer returned := by
        apply BufferSpec.answer_congr
        rw [find?_name_eq_head?, find?_name_eq_head?, hsame spec List.mem_cons_self]
      rw [checkOutputs_cons, List.mapM_cons, ← hspec]
      cases hanswer : spec.answer remaining with
      | error failure => rfl
      | ok output =>
          obtain ⟨b, hb, hname⟩ := exists_taken hanswer
          -- the buffer that is gone has the name of another shape
          have hne : ∀ s ∈ specs, b.name ≠ s.name := fun s hs heq =>
            hspecs.1 (hname ▸ heq ▸ List.mem_map_of_mem hs)
          have hleft : checkOutputs specs (takeOut (remaining.findIdx (·.name == spec.name)) remaining) =
              specs.mapM (·.answer returned) := by
            refine ih hspecs.2 (fun k s hs => ?_) fun s hs => ?_
            · exact ((hsettled (k + 1) s hs).takeOut hb (hne s (List.mem_of_getElem? hs))).2
            · obtain ⟨k, hk⟩ := List.mem_iff_getElem?.1 hs
              rw [((hsettled (k + 1) s hk).takeOut hb (hne s hs)).1]
              exact hsame s (List.mem_cons_of_mem _ hs)
          rw [Except.ok_bind, Except.ok_bind, hleft]
          rfl

/-- **Each shape is answered from all returned buffers.** -/
theorem checkOutputs_eq_mapM (hspecs : (specs.map (·.name)).Nodup)
    (hreturned : (returned.map (·.name)).Nodup) :
    checkOutputs specs returned = specs.mapM (·.answer returned) :=
  checkOutputs_remaining hspecs (fun k spec _ => settled_of_nodup hreturned k spec.name) fun _ _ => rfl

theorem checkOutputs_perm (hspecs : (specs.map (·.name)).Nodup)
    (hreturned : (returned.map (·.name)).Nodup) (hperm : returned.Perm permuted) :
    checkOutputs specs permuted = checkOutputs specs returned := by
  have hpermuted : (permuted.map (·.name)).Nodup := ((hperm.map _).nodup_iff).1 hreturned
  have hanswer : BufferSpec.answer permuted = BufferSpec.answer returned :=
    funext fun _ => BufferSpec.answer_perm hreturned hperm
  rw [checkOutputs_eq_mapM hspecs hpermuted, checkOutputs_eq_mapM hspecs hreturned, hanswer]

end Outputs

/-- **Returned buffers are matched by name.** Let neither shapes nor returned buffers repeat a name. Then
there are outputs if each shape is met, whatever else was returned: one for each shape, in the order of
the shapes, which is the buffer of its name cut to its type. Otherwise the failure is that of the first
shape that is not met. All this is the same in whatever order the buffers were returned. -/
theorem checkOutputs_by_name {specs : List BufferSpec} {returned : List Buffer}
    (hspecs : (specs.map (·.name)).Nodup) (hreturned : (returned.map (·.name)).Nodup) :
    ((∃ outputs, checkOutputs specs returned = .ok outputs) ↔ ∀ spec ∈ specs, spec.Met returned) ∧
    (∀ outputs, checkOutputs specs returned = .ok outputs ↔
      List.Forall₂ (fun spec output => ∃ b ∈ returned, b.name = spec.name ∧ b.length = spec.length ∧
        output = Buffer.ofWords spec.name spec.type b.data) specs outputs) ∧
    (∀ failure, checkOutputs specs returned = .error failure ↔
      ∃ before spec after, specs = before ++ spec :: after ∧ (∀ s ∈ before, s.Met returned) ∧
        spec.Refuses returned failure) ∧
    (∀ permuted, returned.Perm permuted →
      checkOutputs specs permuted = checkOutputs specs returned) := by
  refine ⟨?_, fun outputs => ?_, fun failure => ?_, fun permuted hperm => ?_⟩
  · simp only [checkOutputs_eq_mapM hspecs hreturned, Except.exists_mapM_eq_ok_iff,
      BufferSpec.exists_answer_iff hreturned]
  · simp only [checkOutputs_eq_mapM hspecs hreturned, Except.mapM_eq_ok_iff,
      BufferSpec.answer_eq_ok_iff hreturned]
  · simp only [checkOutputs_eq_mapM hspecs hreturned, Except.mapM_eq_error_iff,
      BufferSpec.exists_answer_iff hreturned, BufferSpec.answer_eq_error_iff hreturned]
  · exact checkOutputs_perm hspecs hreturned hperm

/-- The first shape takes out the last buffer of three, the second one the first; nobody asks for the
other one. The same buffers in the opposite order give the same outputs. If the second shape has another
length, it is the one that fails. -/
theorem checkOutputs_by_name_three :
    let u16 := ElementType.ofWidth "u16" 16 .unsigned
    let u32 := ElementType.ofWidth "u32" 32 .unsigned
    let specs := [⟨"sum", u32, 2⟩, ⟨"carry", u16, 1⟩]
    let returned := [⟨"carry", u32, [0x10001]⟩, ⟨"trace", u32, []⟩, ⟨"sum", u32, [7, 8]⟩]
    (specs.map BufferSpec.name).Nodup ∧ (returned.map Buffer.name).Nodup ∧
      checkOutputs specs returned = .ok [⟨"sum", u32, [7, 8]⟩, ⟨"carry", u16, [1]⟩] ∧
      checkOutputs specs returned.reverse = checkOutputs specs returned ∧
      checkOutputs [⟨"sum", u32, 2⟩, ⟨"carry", u16, 3⟩] returned =
        .error (.outputShape "carry" 3 1) := by
  intro u16 u32 specs returned
  have hspecs : (specs.map BufferSpec.name).Nodup := by decide
  have hreturned : (returned.map Buffer.name).Nodup := by decide
  obtain ⟨-, houtputs, -, hperm⟩ := checkOutputs_by_name hspecs hreturned
  obtain ⟨-, -, hfailure, -⟩ :=
    @checkOutputs_by_name [⟨"sum", u32, 2⟩, ⟨"carry", u16, 3⟩] returned (by decide) hreturned
  refine ⟨hspecs, hreturned, (houtputs _).2 (.cons ?_ (.cons ?_ .nil)),
    hperm _ returned.reverse_perm.symm, (hfailure _).2 ?_⟩
  · exact ⟨⟨"sum", u32, [7, 8]⟩, by simp [returned], rfl, rfl, by decide⟩
  · exact ⟨⟨"carry", u32, [0x10001]⟩, by simp [returned], rfl, rfl, by decide⟩
  · refine ⟨[⟨"sum", u32, 2⟩], ⟨"carry", u16, 3⟩, [], rfl, fun s hs => ?_, ?_⟩
    · obtain rfl := List.mem_singleton.1 hs
      exact ⟨⟨"sum", u32, [7, 8]⟩, by simp [returned], rfl, rfl⟩
    · exact .misshapen (b := ⟨"carry", u32, [0x10001]⟩) (by simp [returned]) rfl (by decide)

end Crosscheck
