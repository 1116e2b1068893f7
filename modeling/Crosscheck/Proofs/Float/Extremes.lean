import Crosscheck.Proofs.Float.Distance
import Crosscheck.Proofs.Float.Exactness
import Crosscheck.Proofs.Word.Confinement
import Mathlib.Data.Prod.Lex

/-!
# Crosscheck.Proofs.Float.Extremes

**The lesser and the greater of two numbers.** The numbers of a format are its patterns that are no NaN.
They have a total order, by value and with negative zero below positive zero (`FloatFormat.Number`), and
`FloatFormat.min` and `FloatFormat.max` choose by it. Half-precision elements are compared in single
precision; that is the same choice, since single precision keeps the order and gives the pattern back
(`FloatFormat.Widens.convert_min`). A NaN loses to a number, and two of them give a NaN
(`FloatElement.min_max_law`).
-/

namespace Crosscheck

/-- The sign of a datum; NaN has none. -/
def Datum.negative : Datum → Bool
  | .nan => false
  | .infinite s => s
  | .finite s _ _ => s

/-- What data are ordered by: the value, and among equal values the sign. -/
def Datum.rank (d : Datum) : Extended ×ₗ Bool := toLex (d.value, !d.negative)

theorem Datum.Same.rank_eq {d e : Datum} (h : d.Same e) : d.rank = e.rank := by
  have hnegative : d.negative = e.negative := by
    cases d <;> cases e <;> try exact h.elim
    case nan.nan => rfl
    case infinite.infinite => exact h
    case finite.finite => exact h.1
  rw [rank, rank, h.value_eq, hnegative]

namespace FloatFormat

variable {f g : FloatFormat} {p q : Nat}

/-! ### Ranks -/

/-- The rank of a pattern. -/
def rank (f : FloatFormat) (pattern : Nat) : Extended ×ₗ Bool := (f.decode pattern).rank

theorem negative_decode (h : f.isNaN p = false) : (f.decode p).negative = f.isNegative p := by
  simp only [decode, h, Bool.false_eq_true, if_false]
  split
  · rfl
  · split <;> rfl

/-- Ranks in terms of places and signs. -/
theorem rank_lt_iff (hf : 0 < f.infinity) (hp : f.isNaN p = false) (hq : f.isNaN q = false) :
    f.rank p < f.rank q ↔ f.place p < f.place q ∨
      f.place p = f.place q ∧ f.isNegative p = true ∧ f.isNegative q = false := by
  have hmono := f.strictMonoOn_valueAt
  rw [rank, rank, Datum.rank, Datum.rank, Prod.Lex.toLex_lt_toLex, negative_decode hp,
    negative_decode hq, value_decode hf hp, value_decode hf hq,
    hmono.lt_iff_lt (place_mem hp) (place_mem hq), hmono.injOn.eq_iff (place_mem hp) (place_mem hq)]
  cases f.isNegative p <;> cases f.isNegative q <;> simp

/-- Different numbers have different ranks. -/
theorem eq_of_rank_eq (hltp : p < 2 ^ f.width) (hltq : q < 2 ^ f.width) (hp : f.isNaN p = false)
    (hq : f.isNaN q = false) (h : f.rank p = f.rank q) : p = q := by
  obtain ⟨hvalue, hsign⟩ := Prod.mk.inj (toLex.injective h)
  rw [negative_decode hp, negative_decode hq, Bool.not_inj_iff] at hsign
  have hmagnitude : f.magnitude p = f.magnitude q := by
    have hlep := magnitude_le_of_not_nan hp
    have hleq := magnitude_le_of_not_nan hq
    rcases Nat.eq_zero_or_pos f.infinity with hzero | hpos
    · omega
    · rw [value_decode hpos hp, value_decode hpos hq] at hvalue
      have hplace := f.strictMonoOn_valueAt.injOn (place_mem hp) (place_mem hq) hvalue
      rw [← natAbs_place, ← natAbs_place, hplace]
  rw [← ofMagnitude_self hltp, ← ofMagnitude_self hltq, hsign, hmagnitude]

/-- Ranks go with the places, and between the zeros with the signs. -/
theorem rank_le_rank (hf : 0 < f.infinity) (hp : f.isNaN p = false) (hq : f.isNaN q = false)
    (hplace : f.place p ≤ f.place q)
    (hzeros : f.place p = 0 → f.place q = 0 → f.isNegative p = true ∨ f.isNegative q = false) :
    f.rank p ≤ f.rank q := by
  rw [← not_lt, rank_lt_iff hf hq hp]
  rintro (hlt | ⟨heq, hneg, hpos⟩)
  · exact Int.not_lt.2 hplace hlt
  · have hzero := Ulp.place_eq_zero (by rw [hneg, hpos]; decide) heq
    rcases hzeros (heq.symm.trans hzero) hzero with h | h
    · exact Bool.false_ne_true (hpos.symm.trans h)
    · exact Bool.false_ne_true (h.symm.trans hneg)

/-- The lesser operand has the least rank. -/
theorem min_eq (hf : 0 < f.infinity) (hp : f.isNaN p = false) (hq : f.isNaN q = false) :
    (f.min p q = p ∧ f.rank p ≤ f.rank q) ∨ (f.min p q = q ∧ f.rank q ≤ f.rank p) := by
  simp only [FloatFormat.min, hp, hq]
  by_cases hzeros : f.place p = 0 ∧ f.place q = 0
  · have hplace : f.place p = f.place q := hzeros.1.trans hzeros.2.symm
    rw [if_pos hzeros]
    cases hneg : f.isNegative p with
    | true => exact .inl ⟨rfl, rank_le_rank hf hp hq hplace.le fun _ _ => .inl hneg⟩
    | false => exact .inr ⟨rfl, rank_le_rank hf hq hp hplace.ge fun _ _ => .inr hneg⟩
  · rw [if_neg hzeros]
    by_cases hlt : f.place q < f.place p
    · exact .inr ⟨if_pos hlt, rank_le_rank hf hq hp hlt.le fun hzq hzp => absurd ⟨hzp, hzq⟩ hzeros⟩
    · exact .inl ⟨if_neg hlt, rank_le_rank hf hp hq (Int.not_lt.1 hlt) fun hzp hzq =>
        absurd ⟨hzp, hzq⟩ hzeros⟩

/-- The greater operand has the greatest rank. -/
theorem max_eq (hf : 0 < f.infinity) (hp : f.isNaN p = false) (hq : f.isNaN q = false) :
    (f.max p q = p ∧ f.rank q ≤ f.rank p) ∨ (f.max p q = q ∧ f.rank p ≤ f.rank q) := by
  simp only [FloatFormat.max, hp, hq]
  by_cases hzeros : f.place p = 0 ∧ f.place q = 0
  · have hplace : f.place p = f.place q := hzeros.1.trans hzeros.2.symm
    rw [if_pos hzeros]
    cases hneg : f.isNegative p with
    | true => exact .inr ⟨rfl, rank_le_rank hf hp hq hplace.le fun _ _ => .inl hneg⟩
    | false => exact .inl ⟨rfl, rank_le_rank hf hq hp hplace.ge fun _ _ => .inr hneg⟩
  · rw [if_neg hzeros]
    by_cases hlt : f.place p < f.place q
    · exact .inr ⟨if_pos hlt, rank_le_rank hf hp hq hlt.le fun hzp hzq => absurd ⟨hzp, hzq⟩ hzeros⟩
    · exact .inl ⟨if_neg hlt, rank_le_rank hf hq hp (Int.not_lt.1 hlt) fun hzq hzp =>
        absurd ⟨hzp, hzq⟩ hzeros⟩

/-! ### Numbers -/

/-- A pattern of the format that is no NaN. -/
@[ext]
structure Number (f : FloatFormat) where
  /-- The pattern. -/
  pattern : Nat
  /-- It is one of the format. -/
  lt_width : pattern < 2 ^ f.width
  /-- It is no NaN. -/
  not_nan : f.isNaN pattern = false

namespace Number

/-- The rank of a number. -/
def rank (x : f.Number) : Extended ×ₗ Bool := f.rank x.pattern

/-- The word that holds the pattern. -/
def word (x : f.Number) : Word := BitVec.ofNat 64 x.pattern

theorem rank_injective : Function.Injective (rank (f := f)) := fun x y h =>
  Number.ext (eq_of_rank_eq x.lt_width y.lt_width x.not_nan y.not_nan h)

/-- Numbers are ordered by value, with negative zero below positive zero. -/
instance : LinearOrder f.Number := LinearOrder.lift' rank rank_injective

/-- The order, spelled out. -/
theorem lt_iff {x y : f.Number} :
    x < y ↔ (f.decode x.pattern).value < (f.decode y.pattern).value ∨
      (f.decode x.pattern).value = (f.decode y.pattern).value ∧
        f.isNegative x.pattern = true ∧ f.isNegative y.pattern = false := by
  have hrank : x < y ↔ f.rank x.pattern < f.rank y.pattern := Iff.rfl
  rw [hrank, FloatFormat.rank, FloatFormat.rank, Datum.rank, Datum.rank, Prod.Lex.toLex_lt_toLex,
    negative_decode x.not_nan, negative_decode y.not_nan]
  cases f.isNegative x.pattern <;> cases f.isNegative y.pattern <;> simp

theorem pattern_min (hf : 0 < f.infinity) (x y : f.Number) :
    (Min.min x y).pattern = f.min x.pattern y.pattern := by
  rcases min_eq hf x.not_nan y.not_nan with ⟨hmin, hle⟩ | ⟨hmin, hle⟩
  · rw [hmin, min_eq_left (show x ≤ y from hle)]
  · rw [hmin, min_eq_right (show y ≤ x from hle)]

theorem pattern_max (hf : 0 < f.infinity) (x y : f.Number) :
    (Max.max x y).pattern = f.max x.pattern y.pattern := by
  rcases max_eq hf x.not_nan y.not_nan with ⟨hmax, hle⟩ | ⟨hmax, hle⟩
  · rw [hmax, max_eq_left (show y ≤ x from hle)]
  · rw [hmax, max_eq_right (show x ≤ y from hle)]

end Number

/-! ### NaN -/

theorem isNaN_quietNaN (h : 0 < f.fractionBits) : f.isNaN f.quietNaN = true := by
  have hhalf : 1 <<< (f.fractionBits - 1) < 1 <<< f.fractionBits := by
    rw [Nat.one_shiftLeft, Nat.one_shiftLeft]
    exact Nat.pow_lt_pow_right (by decide) (by omega)
  have hpos : 0 < 1 <<< (f.fractionBits - 1) := by
    rw [Nat.one_shiftLeft]
    exact Nat.two_pow_pos _
  have hlt : f.quietNaN < f.signBit := by
    rw [← infinity_add_fraction, quietNaN]
    omega
  rw [isNaN, magnitude, Nat.mod_eq_of_lt hlt, quietNaN]
  exact decide_eq_true (by omega)

end FloatFormat

namespace FloatOp

variable {op : FloatOp} {f : FloatFormat} {p q : Nat}

theorem run_of_both_nan (hop : op = .min ∨ op = .max) (hp : f.isNaN p = true)
    (hq : f.isNaN q = true) : op.run f p q = f.quietNaN := by
  rcases hop with rfl | rfl
  · simp only [run, FloatFormat.min, hp, hq]
  · simp only [run, FloatFormat.max, hp, hq]

theorem run_of_left_nan (hop : op = .min ∨ op = .max) (hp : f.isNaN p = true)
    (hq : f.isNaN q = false) : op.run f p q = q := by
  rcases hop with rfl | rfl
  · simp only [run, FloatFormat.min, hp, hq]
  · simp only [run, FloatFormat.max, hp, hq]

theorem run_of_right_nan (hop : op = .min ∨ op = .max) (hp : f.isNaN p = false)
    (hq : f.isNaN q = true) : op.run f p q = p := by
  rcases hop with rfl | rfl
  · simp only [run, FloatFormat.min, hp, hq]
  · simp only [run, FloatFormat.max, hp, hq]

end FloatOp

namespace FloatFormat

/-! ### Wider formats -/

namespace Widens

variable (h : Widens f g)

/-- The number of the wider format with the same value and sign. -/
def number (x : f.Number) : g.Number where
  pattern := f.convert g x.pattern
  lt_width := round_lt _
  not_nan := h.isNaN_convert x.not_nan

theorem pattern_number (x : f.Number) : (h.number x).pattern = f.convert g x.pattern := rfl

/-- The order is that of the wider format. -/
theorem strictMono_number : StrictMono h.number := by
  intro x y hxy
  have hrank (z : f.Number) : (h.number z).rank = z.rank := (h.same_convert z.not_nan).rank_eq
  have hlt : x.rank < y.rank := hxy
  rw [← hrank, ← hrank] at hlt
  exact hlt

theorem convert_number (x : f.Number) : g.convert f (h.number x).pattern = x.pattern :=
  h.convert_convert x.lt_width x.not_nan

include h

/-- **Choosing in a wider format is choosing.** The chosen operand comes back as it was. -/
theorem convert_min (hf : 0 < f.infinity) (hg : 0 < g.infinity) (x y : f.Number) :
    g.convert f (g.min (f.convert g x.pattern) (f.convert g y.pattern)) = f.min x.pattern y.pattern := by
  rw [← h.pattern_number, ← h.pattern_number, ← Number.pattern_min hg,
    ← h.strictMono_number.monotone.map_min, convert_number, Number.pattern_min hf]

theorem convert_max (hf : 0 < f.infinity) (hg : 0 < g.infinity) (x y : f.Number) :
    g.convert f (g.max (f.convert g x.pattern) (f.convert g y.pattern)) = f.max x.pattern y.pattern := by
  rw [← h.pattern_number, ← h.pattern_number, ← Number.pattern_max hg,
    ← h.strictMono_number.monotone.map_max, convert_number, Number.pattern_max hf]

theorem isNaN_convert_eq (hquiet : 0 < g.fractionBits) (p : Nat) :
    g.isNaN (f.convert g p) = f.isNaN p := by
  cases hp : f.isNaN p with
  | true => rw [convert_of_nan hp, isNaN_quietNaN hquiet]
  | false => exact h.isNaN_convert hp

/-- The same with NaN among the operands. -/
theorem convert_run {op : FloatOp} (hop : op = .min ∨ op = .max) (hf : 0 < f.infinity)
    (hg : 0 < g.infinity) (hquiet : 0 < g.fractionBits) (hltp : p < 2 ^ f.width)
    (hltq : q < 2 ^ f.width) :
    g.convert f (op.run g (f.convert g p) (f.convert g q)) = op.run f p q := by
  have hwidep := h.isNaN_convert_eq hquiet p
  have hwideq := h.isNaN_convert_eq hquiet q
  cases hp : f.isNaN p <;> cases hq : f.isNaN q <;> rw [hp] at hwidep <;> rw [hq] at hwideq
  case false.false =>
    rcases hop with rfl | rfl
    · exact h.convert_min hf hg ⟨p, hltp, hp⟩ ⟨q, hltq, hq⟩
    · exact h.convert_max hf hg ⟨p, hltp, hp⟩ ⟨q, hltq, hq⟩
  case false.true =>
    rw [op.run_of_right_nan hop hwidep hwideq, op.run_of_right_nan hop hp hq,
      h.convert_convert hltp hp]
  case true.false =>
    rw [op.run_of_left_nan hop hwidep hwideq, op.run_of_left_nan hop hp hq,
      h.convert_convert hltq hq]
  case true.true =>
    rw [op.run_of_both_nan hop hwidep hwideq, op.run_of_both_nan hop hp hq,
      convert_of_nan (isNaN_quietNaN hquiet)]

end Widens

end FloatFormat

namespace FloatElement

open Word (low)

variable {bits : Nat} {f : FloatFormat} {op : FloatOp} {a b c : Word}

/-! ### Elements -/

theorem width_of_ofWidth? (hf : FloatFormat.ofWidth? bits = some f) : f.width = bits := by
  rcases Ulp.of_ofWidth? hf with ⟨rfl, rfl⟩ | ⟨rfl, rfl⟩ | ⟨rfl, rfl⟩ <;> rfl

theorem le_of_ofWidth? (hf : FloatFormat.ofWidth? bits = some f) : bits ≤ 64 := by
  rcases Ulp.of_ofWidth? hf with ⟨rfl, rfl⟩ | ⟨rfl, rfl⟩ | ⟨rfl, rfl⟩ <;> decide

/-- Elements are chosen as patterns of their own format, whatever format they are compared in. -/
theorem binary_eq (hop : op = .min ∨ op = .max) (hf : FloatFormat.ofWidth? bits = some f)
    (a b : Word) :
    binary op bits a b = some (BitVec.ofNat 64 (op.run f (pattern bits a) (pattern bits b))) := by
  rcases Ulp.of_ofWidth? hf with ⟨rfl, rfl⟩ | ⟨rfl, rfl⟩ | ⟨rfl, rfl⟩
  · have ha : pattern 16 a < 2 ^ FloatFormat.binary16.width := pattern_lt (by decide) a
    have hb : pattern 16 b < 2 ^ FloatFormat.binary16.width := pattern_lt (by decide) b
    rw [binary, FloatFormat.binary16_widens.convert_run hop (by decide) (by decide) (by decide) ha hb]
  · rfl
  · rfl

theorem ofNat_pattern (bits : Nat) (v : Word) : BitVec.ofNat 64 (pattern bits v) = low bits v := by
  rw [pattern, BitVec.ofNat_toNat, BitVec.setWidth_eq]

/-- The number in the low bits of a word. -/
def number (hf : FloatFormat.ofWidth? bits = some f) (ha : isNaN bits a = false) : f.Number where
  pattern := pattern bits a
  lt_width := (width_of_ofWidth? hf).symm ▸ pattern_lt (le_of_ofWidth? hf) a
  not_nan := Ulp.isNaN_eq hf a ▸ ha

theorem word_number (hf : FloatFormat.ofWidth? bits = some f) (ha : isNaN bits a = false) :
    (number hf ha).word = low bits a :=
  ofNat_pattern bits a

theorem pattern_word (hf : FloatFormat.ofWidth? bits = some f) (x : f.Number) :
    pattern bits x.word = x.pattern := by
  have hlt := x.lt_width
  have hbits := le_of_ofWidth? hf
  rw [width_of_ofWidth? hf] at hlt
  have hword := Nat.lt_of_lt_of_le hlt (Nat.pow_le_pow_right (by decide) hbits)
  rw [pattern, Word.toNat_low hbits, FloatFormat.Number.word, BitVec.toNat_ofNat,
    Nat.mod_eq_of_lt hword, Nat.mod_eq_of_lt hlt]

theorem isNaN_word (hf : FloatFormat.ofWidth? bits = some f) (x : f.Number) :
    isNaN bits x.word = false := by
  rw [Ulp.isNaN_eq hf, pattern_word hf, x.not_nan]

theorem number_word (hf : FloatFormat.ofWidth? bits = some f) (x : f.Number) :
    number hf (isNaN_word hf x) = x :=
  FloatFormat.Number.ext (pattern_word hf x)

/-! ### Words -/

section Choice

variable (hf : FloatFormat.ofWidth? bits = some f)

include hf

theorem binary_of_both_nan (hop : op = .min ∨ op = .max) (ha : isNaN bits a = true)
    (hb : isNaN bits b = true) : ∃ v, binary op bits a b = some v ∧ isNaN bits v = true := by
  rw [Ulp.isNaN_eq hf] at ha hb
  refine ⟨_, binary_eq hop hf a b, ?_⟩
  rw [op.run_of_both_nan hop ha hb]
  rcases Ulp.of_ofWidth? hf with ⟨rfl, rfl⟩ | ⟨rfl, rfl⟩ | ⟨rfl, rfl⟩ <;> decide

theorem binary_of_left_nan (hop : op = .min ∨ op = .max) (ha : isNaN bits a = true)
    (hb : isNaN bits b = false) : binary op bits a b = some (low bits b) := by
  rw [Ulp.isNaN_eq hf] at ha hb
  rw [binary_eq hop hf, op.run_of_left_nan hop ha hb, ofNat_pattern]

theorem binary_of_right_nan (hop : op = .min ∨ op = .max) (ha : isNaN bits a = false)
    (hb : isNaN bits b = true) : binary op bits a b = some (low bits a) := by
  rw [Ulp.isNaN_eq hf] at ha hb
  rw [binary_eq hop hf, op.run_of_right_nan hop ha hb, ofNat_pattern]

theorem binary_min (ha : isNaN bits a = false) (hb : isNaN bits b = false) :
    binary .min bits a b = some (Min.min (number hf ha) (number hf hb)).word := by
  rw [binary_eq (.inl rfl) hf, FloatFormat.Number.word,
    FloatFormat.Number.pattern_min (Ulp.infinity_pos hf)]
  rfl

theorem binary_max (ha : isNaN bits a = false) (hb : isNaN bits b = false) :
    binary .max bits a b = some (Max.max (number hf ha) (number hf hb)).word := by
  rw [binary_eq (.inr rfl) hf, FloatFormat.Number.word,
    FloatFormat.Number.pattern_max (Ulp.infinity_pos hf)]
  rfl

theorem binary_comm (hop : op = .min ∨ op = .max) (ha : isNaN bits a = false)
    (hb : isNaN bits b = false) : binary op bits a b = binary op bits b a := by
  rcases hop with rfl | rfl
  · rw [binary_min hf ha hb, binary_min hf hb ha, min_comm]
  · rw [binary_max hf ha hb, binary_max hf hb ha, max_comm]

theorem binary_assoc (hop : op = .min ∨ op = .max) (ha : isNaN bits a = false)
    (hb : isNaN bits b = false) (hc : isNaN bits c = false) :
    ((binary op bits a b).bind fun v => binary op bits v c) =
      (binary op bits b c).bind fun v => binary op bits a v := by
  rcases hop with rfl | rfl
  · rw [binary_min hf ha hb, binary_min hf hb hc, Option.bind_some, Option.bind_some,
      binary_min hf (isNaN_word hf _) hc, binary_min hf ha (isNaN_word hf _), number_word,
      number_word, min_assoc]
  · rw [binary_max hf ha hb, binary_max hf hb hc, Option.bind_some, Option.bind_some,
      binary_max hf (isNaN_word hf _) hc, binary_max hf ha (isNaN_word hf _), number_word,
      number_word, max_assoc]

theorem binary_self (hop : op = .min ∨ op = .max) (ha : isNaN bits a = false) :
    binary op bits a a = some (low bits a) := by
  rw [← word_number hf ha]
  rcases hop with rfl | rfl
  · rw [binary_min hf ha ha, min_self]
  · rw [binary_max hf ha ha, max_self]

end Choice

/-- **What the lesser and the greater of two elements are.** Of two NaNs either is a NaN, and of a NaN and
a number either is the number, bit for bit and on whichever side it stands. Of two numbers the lesser is
the one that is least, and the greater the one that is greatest, by value with negative zero below
positive zero. So on numbers the choice is commutative, associative and idempotent, and the lesser never
exceeds the greater. -/
theorem min_max_law {bits : Nat} {f : FloatFormat} (hf : FloatFormat.ofWidth? bits = some f) :
    (∀ op : FloatOp, op = .min ∨ op = .max → ∀ a b : Word,
      (isNaN bits a = true → isNaN bits b = true →
        ∃ v, binary op bits a b = some v ∧ isNaN bits v = true) ∧
      (isNaN bits a = true → isNaN bits b = false →
        binary op bits a b = some (low bits b) ∧ binary op bits b a = some (low bits b))) ∧
    (∀ (a b : Word) (ha : isNaN bits a = false) (hb : isNaN bits b = false),
      let x := number hf ha
      let y := number hf hb
      (x.word = low bits a ∧ y.word = low bits b) ∧
      (x < y ↔ (f.decode (pattern bits a)).value < (f.decode (pattern bits b)).value ∨
        (f.decode (pattern bits a)).value = (f.decode (pattern bits b)).value ∧
          f.isNegative (pattern bits a) = true ∧ f.isNegative (pattern bits b) = false) ∧
      binary .min bits a b = some (min x y).word ∧ binary .max bits a b = some (max x y).word ∧
      min x y ≤ max x y) ∧
    (∀ op : FloatOp, op = .min ∨ op = .max → ∀ a b c : Word, isNaN bits a = false →
      isNaN bits b = false → isNaN bits c = false →
      binary op bits a b = binary op bits b a ∧
      ((binary op bits a b).bind fun v => binary op bits v c) =
        ((binary op bits b c).bind fun v => binary op bits a v) ∧
      binary op bits a a = some (low bits a)) := by
  refine ⟨fun op hop a b => ⟨binary_of_both_nan hf hop, fun ha hb => ?_⟩, fun a b ha hb => ?_,
    fun op hop a b c ha hb hc => ?_⟩
  · exact ⟨binary_of_left_nan hf hop ha hb, binary_of_right_nan hf hop hb ha⟩
  · exact ⟨⟨word_number hf ha, word_number hf hb⟩, FloatFormat.Number.lt_iff, binary_min hf ha hb,
      binary_max hf ha hb, min_le_max⟩
  · exact ⟨binary_comm hf hop ha hb, binary_assoc hf hop ha hb hc, binary_self hf hop ha⟩

/-- Half precision: of the two zeros the negative one is the lesser, and it is what a NaN loses to. -/
theorem min_max_law_zeros :
    FloatFormat.ofWidth? 16 = some .binary16 ∧
      isNaN 16 0x8000 = false ∧ isNaN 16 0 = false ∧ isNaN 16 0xfe01 = true ∧
      binary .min 16 0 0x8000 = some 0x8000 ∧ binary .max 16 0x8000 0 = some 0 ∧
      binary .max 16 0xfe01 0x8000 = some 0x8000 ∧
      ∃ v, binary .min 16 0xfe01 0xfe01 = some v ∧ isNaN 16 v = true := by
  have hf : FloatFormat.ofWidth? 16 = some .binary16 := rfl
  have hneg : isNaN 16 0x8000 = false := by decide
  have hpos : isNaN 16 0 = false := by decide
  have hnan : isNaN 16 0xfe01 = true := by decide
  obtain ⟨hnans, hnumbers, halgebra⟩ := min_max_law hf
  obtain ⟨⟨hnegword, hposword⟩, hlt, hmin, hmax, -⟩ := hnumbers 0x8000 0 hneg hpos
  have hvalue := (Ulp.value_eq_iff hf hneg hpos).2 (by decide)
  have hle := (hlt.2 (.inr ⟨hvalue, by decide⟩)).le
  rw [min_eq_left hle, hnegword] at hmin
  rw [max_eq_right hle, hposword] at hmax
  have hcomm := (halgebra .min (.inl rfl) 0x8000 0 0 hneg hpos hpos).1
  exact ⟨hf, hneg, hpos, hnan, hcomm ▸ hmin, hmax, ((hnans .max (.inr rfl) _ _).2 hnan hneg).1,
    (hnans .min (.inl rfl) _ _).1 hnan hnan⟩

end FloatElement

end Crosscheck
