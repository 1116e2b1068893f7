import Crosscheck.Text.Numeral
import Mathlib.Algebra.Group.Nat.Defs

/-!
# Crosscheck.Proofs.Text.Numeral

**Numerals read back.** The digits that are written for a number denote that number in every base up
to sixteen (`ofDigits?_toDigits`), also behind leading zeros (`ofDigits?_hexDigits`). A decimal numeral
is read as its number as long as it fits the bound (`unsigned?_repr`). Its characters are digits, so a
numeral in the middle of a text never contains a separator of that text.
-/

namespace Crosscheck.Text

/-- Reading a written digit gives the digit. -/
theorem hexValue?_digitChar {d : Nat} (h : d < 16) : hexValue? d.digitChar = some d := by
  have hdigits : ∀ d < 16, hexValue? d.digitChar = some d := by decide
  exact hdigits d h

/-- One step of reading a numeral. -/
def digitStep (base : Nat) (acc : Option Nat) (c : Char) : Option Nat := do
  let n ← acc
  let d ← hexValue? c
  if d < base then some (n * base + d) else none

theorem ofDigits?_eq_foldl {base : Nat} {cs : List Char} (h : cs ≠ []) :
    ofDigits? base cs = cs.foldl (digitStep base) (some 0) := by
  have hne : cs.isEmpty = false := by simpa using h
  rw [ofDigits?, hne]
  rfl

theorem foldl_digitStep_toDigits {base : Nat} (hbase : 1 < base) (h16 : base ≤ 16) (n : Nat) :
    (Nat.toDigits base n).foldl (digitStep base) (some 0) = some n := by
  induction n using Nat.strongRecOn with
  | ind n ih =>
      by_cases h : n < base
      · rw [Nat.toDigits_of_lt_base h]
        simp [digitStep, hexValue?_digitChar (Nat.lt_of_lt_of_le h h16), h]
      · have hmod : n % base < base := Nat.mod_lt _ (by omega)
        have hdiv : n / base < n := Nat.div_lt_self (by omega) hbase
        rw [Nat.toDigits_of_base_le hbase (by omega), List.foldl_append, ih (n / base) hdiv]
        simp only [List.foldl_cons, List.foldl_nil, digitStep,
          hexValue?_digitChar (Nat.lt_of_lt_of_le hmod h16)]
        simp only [bind, Option.bind, hmod, if_true, Option.some.injEq]
        exact Nat.div_add_mod' n base

theorem ofDigits?_toDigits {base : Nat} (hbase : 1 < base) (h16 : base ≤ 16) (n : Nat) :
    ofDigits? base (Nat.toDigits base n) = some n := by
  rw [ofDigits?_eq_foldl Nat.toDigits_ne_nil, foldl_digitStep_toDigits hbase h16]

/-- A number has one numeral. -/
theorem toDigits_injective {m n : Nat} (h : Nat.toDigits 10 m = Nat.toDigits 10 n) : m = n := by
  have hread : ∀ n, ofDigits? 10 (Nat.toDigits 10 n) = some n :=
    ofDigits?_toDigits (by decide) (by decide)
  have hm := hread m
  rw [h, hread] at hm
  exact (Option.some.inj hm).symm

theorem isDigit_of_mem_toDigits {n : Nat} {c : Char} (h : c ∈ Nat.toDigits 10 n) :
    c.isDigit = true :=
  Nat.isDigit_of_mem_toDigits (by decide) (by decide) h

/-- A text that does not begin with a plus sign is read as its digits. -/
theorem unsigned?_of_head_ne {bits : Nat} {c : Char} {cs : List Char} (h : c ≠ '+') :
    unsigned? bits (c :: cs) =
      (ofDigits? 10 (c :: cs)).bind fun n => if n < 1 <<< bits then some n else none := by
  simp only [unsigned?]
  split
  · rename_i rest heq
    exact absurd (List.cons.inj heq).1 h
  · rfl

/-- A written number within the bound is read back. -/
theorem unsigned?_toDigits {bits n : Nat} (h : n < 2 ^ bits) :
    unsigned? bits (Nat.toDigits 10 n) = some n := by
  have hlt : n < 1 <<< bits := by simpa [Nat.shiftLeft_eq] using h
  obtain ⟨c, cs, heq⟩ := List.exists_cons_of_ne_nil (Nat.toDigits_ne_nil (n := n) (b := 10))
  have hc : c ≠ '+' := by
    rintro rfl
    have hmem : '+' ∈ Nat.toDigits 10 n := by simp [heq]
    exact absurd (isDigit_of_mem_toDigits hmem) (by decide)
  rw [heq, unsigned?_of_head_ne hc, ← heq, ofDigits?_toDigits (by decide) (by decide)]
  simp [hlt]

theorem unsigned?_repr {bits n : Nat} (h : n < 2 ^ bits) :
    unsigned? bits n.repr.toList = some n := by
  rw [Nat.toList_repr]
  exact unsigned?_toDigits h

/-! ### Hexadecimal numerals -/

/-- Leading zeros do not count. -/
theorem ofDigits?_replicate_append {base : Nat} {cs : List Char} (hbase : 0 < base) (hcs : cs ≠ [])
    (count : Nat) : ofDigits? base (List.replicate count '0' ++ cs) = ofDigits? base cs := by
  have hzero : digitStep base (some 0) '0' = some 0 := by
    have hvalue : hexValue? '0' = some 0 := rfl
    simp [digitStep, hvalue, hbase]
  rw [ofDigits?_eq_foldl (by simp [hcs]), ofDigits?_eq_foldl hcs, List.foldl_append]
  congr 1
  induction count with
  | zero => rfl
  | succ count ih => rw [List.replicate_succ, List.foldl_cons, hzero, ih]

/-- A hexadecimal numeral is read as its number, however far it is padded. -/
theorem ofDigits?_hexDigits (digits n : Nat) : ofDigits? 16 (hexDigits digits n) = some n := by
  rw [hexDigits, ofDigits?_replicate_append (by decide) Nat.toDigits_ne_nil,
    ofDigits?_toDigits (by decide) (by decide)]

/-- A number that fits into the places is written with exactly as many digits. -/
theorem length_hexDigits {digits n : Nat} (hpos : 0 < digits) (h : n < 16 ^ digits) :
    (hexDigits digits n).length = digits := by
  have hle : (Nat.toDigits 16 n).length ≤ digits :=
    (Nat.length_toDigits_le_iff (by decide) hpos).2 h
  simp only [hexDigits, List.length_append, List.length_replicate]
  omega

/-- The digits of a number are those of smaller numbers. -/
theorem exists_of_mem_toDigits {base n : Nat} {c : Char} (hbase : 1 < base)
    (h : c ∈ Nat.toDigits base n) : ∃ d < base, c = d.digitChar := by
  induction n using Nat.strongRecOn with
  | ind n ih =>
      by_cases hn : n < base
      · rw [Nat.toDigits_of_lt_base hn] at h
        exact ⟨n, hn, List.mem_singleton.1 h⟩
      · rw [Nat.toDigits_of_base_le hbase (by omega)] at h
        rcases List.mem_append.1 h with h | h
        · exact ih (n / base) (Nat.div_lt_self (by omega) hbase) h
        · exact ⟨n % base, Nat.mod_lt _ (by omega), List.mem_singleton.1 h⟩

/-- What holds of the sixteen digits holds of all characters of a hexadecimal numeral. -/
theorem forall_mem_hexDigits {P : Char → Prop} (h : ∀ d < 16, P d.digitChar) (digits n : Nat) :
    ∀ c ∈ hexDigits digits n, P c := by
  intro c hc
  rcases List.mem_append.1 hc with hc | hc
  · rw [List.eq_of_mem_replicate hc]
    exact h 0 (by decide)
  · obtain ⟨d, hd, rfl⟩ := exists_of_mem_toDigits (by decide) hc
    exact h d hd

end Crosscheck.Text
