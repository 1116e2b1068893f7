/-!
# Crosscheck.Word

**Machine words and the significant bits they carry.** Every element value of a buffer, of
whatever type, travels as the low bits of one 64-bit word.

* `Word.low bits v` keeps the significant bits and clears the rest; it is the identity on words
  that are already in range, and every kernel of this library ends in it.
* `Word.signed bits v` is the two's complement reading of the same bits.
* `Word.gather f n` builds a word bit by bit, which is how the bit-level kernels are written.

A width is a plain `Nat`. Widths of interest lie between 1 and 64, and the laws that need those
bounds say so.
-/

namespace Crosscheck

/-- A 64-bit machine word: one element of a buffer, widened. -/
abbrev Word := BitVec 64

namespace Word

/-- The low `bits` bits of a word; all higher bits are cleared. -/
def low (bits : Nat) (v : Word) : Word := (v.setWidth bits).setWidth 64

/-- The word whose low `bits` bits are set. -/
def lowMask (bits : Nat) : Word := low bits (BitVec.allOnes 64)

/-- The two's complement reading of the low `bits` bits. -/
def signed (bits : Nat) (v : Word) : Int := (v.setWidth bits).toInt

/-- The word whose bits `0, …, n - 1` are given by `f`, and whose other bits are clear. -/
def gather (f : Nat → Bool) : Nat → Word
  | 0 => 0
  | n + 1 => gather f n ||| ((BitVec.ofBool (f n)).setWidth 64 <<< n)

/-! ### Reading words -/

theorem getLsbD_low (bits : Nat) (v : Word) (i : Nat) :
    (low bits v).getLsbD i = (decide (i < 64) && decide (i < bits) && v.getLsbD i) := by
  simp [low, BitVec.getLsbD_setWidth, Bool.and_assoc]

@[simp] theorem low_low (bits : Nat) (v : Word) : low bits (low bits v) = low bits v := by
  apply BitVec.eq_of_getLsbD_eq
  intro i hi
  rw [getLsbD_low, getLsbD_low]
  by_cases h : i < bits <;> simp [hi, h]

theorem getLsbD_gather (f : Nat → Bool) (n i : Nat) :
    (gather f n).getLsbD i = (decide (i < n) && decide (i < 64) && f i) := by
  induction n with
  | zero => simp [gather]
  | succ n ih =>
    rw [gather, BitVec.getLsbD_or, ih, BitVec.getLsbD_shiftLeft, BitVec.getLsbD_setWidth]
    rcases Nat.lt_trichotomy i n with h | h | h
    · simp [h, Nat.lt_succ_of_lt h]
    · subst h
      by_cases h64 : i < 64 <;> simp [h64]
    · have h1 : ¬ i < n := by omega
      have h2 : ¬ i < n + 1 := by omega
      cases hf : f n <;> simp [h1, h2]
      omega

end Word

end Crosscheck
