import Crosscheck.Buffer
import Crosscheck.Word.Lemmas

/-!
# Crosscheck.Proofs.Buffer.Image

**The image of a buffer in memory is a bijection.** The bytes of an element are the digits of its
number to the base 256, least significant first (`Buffer.littleEndian`), so as many bytes as a word has
spell each word below their power of 256 once. An image is cut into elements where they were joined.
Together: reading the image of a buffer gives the buffer, whose elements need to fit the type, and
writing what was read from an image gives the image (`Buffer.ofBytes_inverts_toBytes`).
-/

namespace Crosscheck

namespace Buffer

variable {bytes : List UInt8} {v : Word} {count size : Nat}

/-! ### The bytes of an element -/

/-- The number that bytes spell, least significant first. -/
def littleEndian (bytes : List UInt8) : Nat := bytes.foldr (fun b acc => b.toNat + 256 * acc) 0

theorem littleEndian_cons (b : UInt8) (bytes : List UInt8) :
    littleEndian (b :: bytes) = b.toNat + 256 * littleEndian bytes :=
  rfl

theorem littleEndian_lt (bytes : List UInt8) : littleEndian bytes < 2 ^ (8 * bytes.length) := by
  induction bytes with
  | nil => decide
  | cons b bytes ih =>
      have hb : b.toNat < 256 := b.toNat_lt
      have hpow : 2 ^ (8 * (b :: bytes).length) = 256 * 2 ^ (8 * bytes.length) := by
        rw [List.length_cons, Nat.mul_succ, Nat.add_comm, Nat.pow_add]
      rw [littleEndian_cons, hpow]
      omega

/-- As many bytes as a word has cannot spell more than a word. -/
theorem toNat_wordOfBytes (h8 : bytes.length ≤ 8) :
    (wordOfBytes bytes).toNat = littleEndian bytes := by
  have hpow : 2 ^ (8 * bytes.length) ≤ 2 ^ 64 := Nat.pow_le_pow_right (by decide) (by omega)
  exact Nat.mod_eq_of_lt (Nat.lt_of_lt_of_le (littleEndian_lt bytes) hpow)

theorem length_wordBytes (count : Nat) (v : Word) : (wordBytes count v).length = count := by
  rw [wordBytes, List.length_map, List.length_range]

/-- The first byte is the lowest one, and the others are those of what is left without it. -/
theorem wordBytes_succ (count : Nat) (v : Word) :
    wordBytes (count + 1) v = UInt8.ofNat v.toNat :: wordBytes count (v >>> 8) := by
  rw [wordBytes, List.range_succ_eq_map, List.map_cons, List.map_map, wordBytes]
  refine congrArg₂ List.cons rfl (List.map_congr_left fun i _ => ?_)
  rw [Function.comp_apply, BitVec.toNat_ushiftRight, ← Nat.shiftRight_add, Nat.mul_succ,
    Nat.add_comm]

theorem littleEndian_wordBytes (count : Nat) (v : Word) :
    littleEndian (wordBytes count v) = v.toNat % 2 ^ (8 * count) := by
  induction count generalizing v with
  | zero => simp [wordBytes, littleEndian, Nat.mod_one]
  | succ count ih =>
      have hpow : 2 ^ (8 * (count + 1)) = 256 * 2 ^ (8 * count) := by
        rw [Nat.mul_succ, Nat.add_comm, Nat.pow_add]
      have hlow : (UInt8.ofNat v.toNat).toNat = v.toNat % 256 := UInt8.toNat_ofNat'
      rw [wordBytes_succ, littleEndian_cons, ih, hlow, hpow, Nat.mod_mul,
        BitVec.toNat_ushiftRight, Nat.shiftRight_eq_div_pow]

/-- A word is read from its bytes as far as they go. -/
theorem wordOfBytes_wordBytes (h8 : count ≤ 8) (v : Word) :
    wordOfBytes (wordBytes count v) = Word.low (8 * count) v := by
  apply BitVec.eq_of_toNat_eq
  rw [toNat_wordOfBytes (by rwa [length_wordBytes]), littleEndian_wordBytes,
    Word.toNat_low (by omega)]

/-- Up to eight bytes are those of the word that they spell. -/
theorem wordBytes_wordOfBytes (h8 : bytes.length ≤ 8) :
    wordBytes bytes.length (wordOfBytes bytes) = bytes := by
  induction bytes with
  | nil => rfl
  | cons b bytes ih =>
      have h7 : bytes.length ≤ 8 := by
        rw [List.length_cons] at h8
        omega
      have hb : b.toNat < 256 := b.toNat_lt
      have hword : (wordOfBytes (b :: bytes)).toNat = b.toNat + 256 * littleEndian bytes :=
        toNat_wordOfBytes h8
      have hfirst : UInt8.ofNat (wordOfBytes (b :: bytes)).toNat = b := by
        apply UInt8.toNat_inj.1
        rw [hword, UInt8.toNat_ofNat']
        omega
      have hrest : wordOfBytes (b :: bytes) >>> 8 = wordOfBytes bytes := by
        apply BitVec.eq_of_toNat_eq
        rw [BitVec.toNat_ushiftRight, hword, toNat_wordOfBytes h7, Nat.shiftRight_eq_div_pow]
        omega
      rw [List.length_cons, wordBytes_succ, hfirst, hrest, ih h7]

/-! ### The pieces of an image -/

variable {α β : Type}

theorem flatten_pieces {as : List α} (h : as.length = size * count) :
    (pieces size count as).flatten = as := by
  induction count generalizing as with
  | zero => exact (List.length_eq_zero_iff.1 h).symm
  | succ count ih =>
      have hrest : (as.drop size).length = size * count := by
        rw [List.length_drop, h, Nat.mul_succ, Nat.add_sub_cancel]
      rw [pieces, List.flatten_cons, ih hrest, List.take_append_drop]

theorem length_of_mem_pieces {as piece : List α} (h : as.length = size * count)
    (hpiece : piece ∈ pieces size count as) : piece.length = size := by
  induction count generalizing as with
  | zero => cases hpiece
  | succ count ih =>
      rw [Nat.mul_succ] at h
      rcases List.mem_cons.1 hpiece with rfl | hpiece
      · rw [List.length_take]
        omega
      · refine ih ?_ hpiece
        rw [List.length_drop, h, Nat.add_sub_cancel]

/-- What is joined from pieces of one size is cut into these pieces. -/
theorem pieces_flatMap {f : α → List β} (h : ∀ a, (f a).length = size) (as : List α) :
    pieces size as.length (as.flatMap f) = as.map f := by
  induction as with
  | nil => rfl
  | cons a as ih =>
      rw [List.length_cons, pieces, List.flatMap_cons, List.take_left' (h a), List.drop_left' (h a),
        ih, List.map_cons]

/-! ### Images -/

variable {t : ElementType} {name : String}

theorem length_toBytes (b : Buffer) : b.toBytes.length = b.type.bytes.toNat * b.length := by
  rw [toBytes, List.length_flatMap, length]
  induction b.data with
  | nil => rfl
  | cons v vs ih =>
      rw [List.map_cons, List.sum_cons, ih, length_wordBytes, List.length_cons, Nat.mul_succ,
        Nat.add_comm]

theorem ofBytes_of_dvd (hbytes : 1 ≤ t.bytes.toNat) (h : t.bytes.toNat ∣ bytes.length) :
    ofBytes name t bytes = .ok ⟨name, t,
      (pieces t.bytes.toNat (bytes.length / t.bytes.toNat) bytes).map wordOfBytes⟩ := by
  have hwhole : ¬ (t.bytes.toNat = 0 ∨ bytes.length % t.bytes.toNat ≠ 0) := by
    rw [Nat.mod_eq_zero_of_dvd h]
    omega
  simp only [ofBytes, if_neg hwhole]

/-- Bytes are read only if they are a whole number of elements. -/
theorem dvd_of_ofBytes {b : Buffer} (h : ofBytes name t bytes = .ok b) :
    t.bytes.toNat ∣ bytes.length := by
  rw [ofBytes] at h
  split at h
  · cases h
  · rename_i hwhole
    exact Nat.dvd_of_mod_eq_zero (by omega)

theorem ofBytes_toBytes (hbytes : 1 ≤ t.bytes.toNat) (h8 : t.bytes.toNat ≤ 8)
    (hbits : t.bits = 8 * t.bytes.toNat) (name : String) (words : List Word) :
    ofBytes name t (ofWords name t words).toBytes = .ok (ofWords name t words) := by
  have hlength : (ofWords name t words).toBytes.length = t.bytes.toNat * words.length := by
    rw [length_toBytes, length_ofWords]
    rfl
  have hdata : (pieces t.bytes.toNat words.length (ofWords name t words).toBytes).map wordOfBytes =
      words.map t.truncate := by
    have hpieces : pieces t.bytes.toNat words.length (ofWords name t words).toBytes =
        words.map fun v => wordBytes t.bytes.toNat (t.truncate v) := by
      rw [toBytes, ofWords, List.flatMap_map]
      exact pieces_flatMap (fun v => length_wordBytes _ _) words
    rw [hpieces, List.map_map]
    refine List.map_congr_left fun v _ => ?_
    rw [Function.comp_apply, wordOfBytes_wordBytes h8, ← hbits]
    exact Word.low_low t.bits v
  rw [ofBytes_of_dvd hbytes (hlength ▸ Nat.dvd_mul_right _ _), hlength,
    Nat.mul_div_cancel_left _ hbytes, hdata, ofWords]

/-- What was read from an image fits the type, and has that image. -/
theorem toBytes_of_ofBytes (hbytes : 1 ≤ t.bytes.toNat) (h8 : t.bytes.toNat ≤ 8)
    (hbits : t.bits = 8 * t.bytes.toNat) {b : Buffer} (h : ofBytes name t bytes = .ok b) :
    (∀ v ∈ b.data, v.toNat < 2 ^ t.bits) ∧ b.toBytes = bytes := by
  have hdvd := dvd_of_ofBytes h
  have hlength : bytes.length = t.bytes.toNat * (bytes.length / t.bytes.toNat) :=
    (Nat.mul_div_cancel' hdvd).symm
  have hpiece : ∀ piece ∈ pieces t.bytes.toNat (bytes.length / t.bytes.toNat) bytes,
      piece.length = t.bytes.toNat := fun piece => length_of_mem_pieces hlength
  rw [ofBytes_of_dvd hbytes hdvd] at h
  obtain rfl := Except.ok.inj h
  constructor
  · intro v hv
    obtain ⟨piece, hmem, rfl⟩ := List.mem_map.1 hv
    have hsize := hpiece piece hmem
    rw [toNat_wordOfBytes (by omega), hbits, ← hsize]
    exact littleEndian_lt piece
  · have hback : (pieces t.bytes.toNat (bytes.length / t.bytes.toNat) bytes).map
        (wordBytes t.bytes.toNat ∘ wordOfBytes) =
          pieces t.bytes.toNat (bytes.length / t.bytes.toNat) bytes := by
      refine (List.map_congr_left fun piece hmem => ?_).trans (List.map_id _)
      have hsize := hpiece piece hmem
      rw [Function.comp_apply, ← hsize, wordBytes_wordOfBytes (by omega), id]
    rw [toBytes, List.flatMap_map, List.flatMap_def]
    exact (congrArg List.flatten hback).trans (flatten_pieces hlength)

/-- **Images and buffers correspond one to one**, for each type of up to eight bytes whose bits fill
its bytes. A buffer is read back from its image, which has the type's bytes for every element. Bytes
are read as a buffer if they are a whole number of elements; its elements fit the type, and its image
is those bytes. -/
theorem ofBytes_inverts_toBytes {t : ElementType} (hbytes : 1 ≤ t.bytes.toNat)
    (h8 : t.bytes.toNat ≤ 8) (hbits : t.bits = 8 * t.bytes.toNat) (name : String) :
    (∀ words, ofBytes name t (ofWords name t words).toBytes = .ok (ofWords name t words) ∧
      (ofWords name t words).toBytes.length =
        t.bytes.toNat * (ofWords name t words).length) ∧
    ∀ bytes, ((∃ b, ofBytes name t bytes = .ok b) ↔ t.bytes.toNat ∣ bytes.length) ∧
      ∀ b, ofBytes name t bytes = .ok b →
        b.name = name ∧ b.type = t ∧ (∀ v ∈ b.data, v.toNat < 2 ^ t.bits) ∧ b.toBytes = bytes := by
  refine ⟨fun words => ⟨ofBytes_toBytes hbytes h8 hbits name words, length_toBytes _⟩,
    fun bytes => ⟨⟨fun ⟨b, hb⟩ => dvd_of_ofBytes hb, fun h => ⟨_, ofBytes_of_dvd hbytes h⟩⟩,
      fun b hb => ?_⟩⟩
  obtain ⟨hfit, himage⟩ := toBytes_of_ofBytes hbytes h8 hbits hb
  rw [ofBytes_of_dvd hbytes (dvd_of_ofBytes hb)] at hb
  obtain rfl := Except.ok.inj hb
  exact ⟨rfl, rfl, hfit, himage⟩

/-- Elements of three bytes. The second word has bits beyond them, and the image of the third starts
in the middle of a word. -/
theorem ofBytes_inverts_toBytes_triple :
    let t := ElementType.ofWidth "b24" 24 .bits
    let b := ofWords "in" t [0x030201, 0xFF_FFFFFE, 0x800000]
    1 ≤ t.bytes.toNat ∧ t.bytes.toNat ≤ 8 ∧ t.bits = 8 * t.bytes.toNat ∧
      b.toBytes = [1, 2, 3, 0xFE, 0xFF, 0xFF, 0, 0, 0x80] ∧
      ofBytes "in" t [1, 2, 3, 0xFE, 0xFF, 0xFF, 0, 0, 0x80] = .ok b ∧
      (¬ ∃ b, ofBytes "in" t [1, 2, 3, 4] = .ok b) := by
  intro t b
  have hbytes : 1 ≤ t.bytes.toNat := by decide
  have h8 : t.bytes.toNat ≤ 8 := by decide
  have hbits : t.bits = 8 * t.bytes.toNat := by decide
  obtain ⟨hbuffer, himage⟩ := ofBytes_inverts_toBytes hbytes h8 hbits "in"
  have hspelled : b.toBytes = [1, 2, 3, 0xFE, 0xFF, 0xFF, 0, 0, 0x80] := by decide
  refine ⟨hbytes, h8, hbits, hspelled, ?_, fun h => ?_⟩
  · rw [← hspelled]
    exact (hbuffer _).1
  · have hdvd := (himage [1, 2, 3, 4]).1.1 h
    revert hdvd
    decide

end Buffer

end Crosscheck
