import Crosscheck.Json.Printer
import Crosscheck.Json.Token
import Crosscheck.Proofs.Text.Numeral

/-!
# Crosscheck.Proofs.Json.Token

**Written tokens are read again.** A string is read back whatever characters it has
(`JsonToken.next?_quoted`), since no character is half of a surrogate pair. A number is read back as
long as what follows it does not continue it (`JsonToken.next?_numberText`). A text that spells some
tokens one after the other, with any blanks between them, is scanned as those tokens
(`JsonToken.Spells.scan?`); `JsonToken.Writes` says it of a piece of a text, and composes.
-/

namespace Crosscheck.JsonToken

variable {rest : List Char}

/-! ### Strings -/

theorem codes?_escape {cs : List Char} {n : Nat} (hlength : cs.length = 4)
    (hvalue : Text.ofDigits? 16 cs = some n) (rest : List Char) :
    codes? ('\\' :: 'u' :: (cs ++ rest)) = (codes? rest).map fun p => (n :: p.1, p.2) := by
  obtain ⟨a, b, c, d, rfl⟩ : ∃ a b c d, cs = [a, b, c, d] := by
    match cs, hlength with
    | [a, b, c, d], _ => exact ⟨a, b, c, d, rfl⟩
  show codes? ('\\' :: 'u' :: a :: b :: c :: d :: rest) = _
  rw [codes?, hvalue]
  cases codes? rest <;> rfl

theorem codes?_backslash {c e : Char} (hc : c ≠ 'u') (he : escaped? c = some e)
    (rest : List Char) :
    codes? ('\\' :: c :: rest) = (codes? rest).map fun p => (e.toNat :: p.1, p.2) := by
  rw [codes?, he]
  · cases codes? rest <;> rfl
  · intro a b d e rest hu
    exact absurd hu hc

/-- Every way a character is written is read as its code. -/
theorem codes?_escapedChar (c : Char) (rest : List Char) :
    codes? (Json.escapedChar c ++ rest) = (codes? rest).map fun p => (c.toNat :: p.1, p.2) := by
  rw [Json.escapedChar.eq_def]
  split
  case h_8 hquote hbackslash _ _ _ _ _ =>
    split
    case isTrue hcontrol =>
      have hlength : (Text.hexDigits 4 c.toNat).length = 4 :=
        Text.length_hexDigits (by decide) (Nat.lt_trans hcontrol (by decide))
      exact codes?_escape hlength (Text.ofDigits?_hexDigits 4 c.toNat) rest
    case isFalse hplain =>
      have hread : ¬ (c.toNat < 32 || c == '\\') = true := by
        simpa using ⟨Nat.not_lt.1 hplain, hbackslash⟩
      rw [List.singleton_append, codes?.eq_def]
      split
      case h_1 heq => exact absurd (List.cons.inj heq).1 hquote
      case h_2 heq => exact absurd (List.cons.inj heq).1 hbackslash
      case h_3 heq => exact absurd (List.cons.inj heq).1 hbackslash
      case h_4 heq =>
        obtain ⟨rfl, rfl⟩ := List.cons.inj heq
        rw [if_neg hread]
        cases codes? rest <;> rfl
      case h_5 heq => cases heq
  all_goals exact codes?_backslash (by decide) rfl rest

theorem codes?_quoted (cs rest : List Char) :
    codes? (cs.flatMap Json.escapedChar ++ '"' :: rest) = some (cs.map Char.toNat, rest) := by
  induction cs with
  | nil => rfl
  | cons c cs ih =>
      rw [List.flatMap_cons, List.append_assoc, codes?_escapedChar, ih]
      rfl

theorem not_surrogate (c : Char) :
    isHighSurrogate c.toNat = false ∧ isLowSurrogate c.toNat = false := by
  have hvalid : c.toNat < 0xD800 ∨ 0xDFFF < c.toNat ∧ c.toNat < 0x110000 := c.valid
  simp only [isHighSurrogate, isLowSurrogate, Bool.and_eq_false_iff, decide_eq_false_iff_not]
  omega

theorem charactersOf?_toNat (cs : List Char) : charactersOf? (cs.map Char.toNat) = some cs := by
  induction cs with
  | nil => rfl
  | cons c cs ih =>
      obtain ⟨hhigh, hlow⟩ := not_surrogate c
      cases cs with
      | nil => simp [charactersOf?, hhigh, hlow]
      | cons d cs =>
          rw [List.map_cons, List.map_cons] at *
          simp [charactersOf?, hhigh, hlow, ih]

/-- A written string is read back. -/
theorem next?_quoted (s : String) (rest : List Char) :
    next? (Json.quoted s.toList ++ rest) = some (.text (some s), rest) := by
  have hcodes := codes?_quoted s.toList rest
  simp only [Json.quoted, List.cons_append, List.append_assoc, List.nil_append, next?, hcodes]
  simp [charactersOf?_toNat]

/-! ### Numbers -/

/-- Whether a character that follows a number would be read as part of it. -/
def continuesNumber (c : Char) : Bool := c.isDigit || c == '.' || c == 'e' || c == 'E'

/-- What follows does not continue a number. -/
def Stops (rest : List Char) : Prop := ∀ c ∈ rest.head?, continuesNumber c = false

theorem stops_nil : Stops [] := nofun

theorem stops_cons {c : Char} (hc : continuesNumber c = false) (cs : List Char) :
    Stops (c :: cs) := by
  intro d hd
  obtain rfl : c = d := Option.some.inj hd
  exact hc

theorem continuesNumber_of_isBlank {c : Char} (h : isBlank c = true) :
    continuesNumber c = false := by
  simp only [isBlank, Bool.or_eq_true, beq_iff_eq] at h
  rcases h with ((rfl | rfl) | rfl) | rfl <;> rfl

theorem stops_blanks {blanks cs : List Char} (hblanks : ∀ b ∈ blanks, isBlank b = true)
    (hcs : Stops cs) : Stops (blanks ++ cs) := by
  cases blanks with
  | nil => exact hcs
  | cons b blanks =>
      exact stops_cons (continuesNumber_of_isBlank (hblanks b List.mem_cons_self)) _

theorem Stops.not_digit (h : Stops rest) : ∀ c ∈ rest.head?, c.isDigit = false := by
  intro c hc
  have := h c hc
  simp only [continuesNumber, Bool.or_eq_false_iff] at this
  exact this.1.1.1

theorem Stops.fraction? (h : Stops rest) : fraction? rest = some (none, rest) := by
  rw [JsonToken.fraction?.eq_def]
  split
  case h_1 => exact absurd (h '.' rfl) (by decide)
  case h_2 => rfl

theorem Stops.exponent? (h : Stops rest) : exponent? rest = some (none, rest) := by
  cases rest with
  | nil => rfl
  | cons c rest =>
      have := h c rfl
      simp only [continuesNumber, Bool.or_eq_false_iff] at this
      simp [JsonToken.exponent?, this.1.2, this.2]

/-- Only the numeral of zero begins with a zero. -/
theorem eq_zero_of_toDigits {n : Nat} {ds : List Char} (h : Nat.toDigits 10 n = '0' :: ds) :
    n = 0 ∧ ds = [] := by
  induction n using Nat.strongRecOn generalizing ds with
  | ind n ih =>
      by_cases hn : n < 10
      · rw [Nat.toDigits_of_lt_base hn] at h
        obtain ⟨hdigit, rfl⟩ := List.cons.inj h
        have hvalue := Text.hexValue?_digitChar (Nat.lt_of_lt_of_le hn (by decide))
        rw [hdigit] at hvalue
        exact ⟨(Option.some.inj hvalue).symm, rfl⟩
      · -- the first digit is that of a smaller number, which is not zero
        obtain ⟨c, cs, heq⟩ := List.exists_cons_of_ne_nil
          (Nat.toDigits_ne_nil (n := n / 10) (b := 10))
        rw [Nat.toDigits_of_base_le (by decide) (by omega), heq, List.cons_append] at h
        obtain ⟨rfl, -⟩ := List.cons.inj h
        have := (ih (n / 10) (by omega) heq).1
        omega

theorem isDigit_of_toDigits_append {n : Nat} {c : Char} {cs : List Char}
    (h : Nat.toDigits 10 n ++ rest = c :: cs) : c.isDigit = true := by
  obtain ⟨d, ds, hdigits⟩ := List.exists_cons_of_ne_nil (Nat.toDigits_ne_nil (n := n) (b := 10))
  have hd : d.isDigit = true := Text.isDigit_of_mem_toDigits (n := n) (by simp [hdigits])
  rw [hdigits, List.cons_append] at h
  exact (List.cons.inj h).1 ▸ hd

theorem exists_digit (n : Nat) (rest : List Char) :
    ∃ c cs, Nat.toDigits 10 n ++ rest = c :: cs ∧ c.isDigit = true := by
  obtain ⟨c, cs, heq⟩ : ∃ c cs, Nat.toDigits 10 n ++ rest = c :: cs :=
    List.exists_cons_of_ne_nil (by simp [Nat.toDigits_ne_nil])
  exact ⟨c, cs, heq, isDigit_of_toDigits_append heq⟩

theorem digits_append {ds : List Char} (hds : ∀ c ∈ ds, c.isDigit = true)
    (hrest : ∀ c ∈ rest.head?, c.isDigit = false) : digits (ds ++ rest) = (ds, rest) := by
  have hnone : rest.takeWhile Char.isDigit = [] ∧ rest.dropWhile Char.isDigit = rest := by
    cases rest with
    | nil => exact ⟨rfl, rfl⟩
    | cons c rest => simp [hrest c rfl]
  rw [digits, List.takeWhile_append_of_pos hds, List.dropWhile_append_of_pos hds, hnone.1, hnone.2,
    List.append_nil]

theorem digits_toDigits (n : Nat) (hrest : ∀ c ∈ rest.head?, c.isDigit = false) :
    digits (Nat.toDigits 10 n ++ rest) = (Nat.toDigits 10 n, rest) :=
  digits_append (fun _ => Text.isDigit_of_mem_toDigits) hrest

theorem wholePart?_toDigits (n : Nat) (hrest : ∀ c ∈ rest.head?, c.isDigit = false) :
    wholePart? (Nat.toDigits 10 n ++ rest) = some (Nat.toDigits 10 n, rest) := by
  rw [wholePart?, digits_toDigits n hrest]
  split
  case h_1 heq => exact absurd (congrArg Prod.fst heq) Nat.toDigits_ne_nil
  case h_2 heq =>
    obtain ⟨hdigits, rfl⟩ := Prod.mk.inj heq
    rw [hdigits]
  case h_3 hne heq =>
    obtain ⟨hdigits, rfl⟩ := Prod.mk.inj heq
    obtain ⟨-, rfl⟩ := eq_zero_of_toDigits hdigits
    exact (hne rfl).elim
  case h_4 heq =>
    obtain ⟨rfl, rfl⟩ := Prod.mk.inj heq
    rfl

theorem number?_toDigits (n : Nat) (h : Stops rest) :
    number? false (Nat.toDigits 10 n ++ rest) = some (.number (.natural n), rest) := by
  simp [number?, wholePart?_toDigits n h.not_digit, h.fraction?, h.exponent?,
    Text.ofDigits?_toDigits]

theorem exponentDigits?_toDigits (negative : Bool) (n : Nat) (h : Stops rest) :
    exponentDigits? negative (Nat.toDigits 10 n ++ rest) =
      some (some (if negative then -(n : Int) else n), rest) := by
  rw [exponentDigits?, digits_toDigits n h.not_digit]
  split
  case h_1 heq => exact absurd (congrArg Prod.fst heq) Nat.toDigits_ne_nil
  case h_2 heq =>
    obtain ⟨rfl, rfl⟩ := Prod.mk.inj heq
    simp [Text.ofDigits?_toDigits]

theorem exponent?_repr (e : Int) (h : Stops rest) :
    exponent? ('e' :: (e.repr.toList ++ rest)) = some (some e, rest) := by
  cases e with
  | ofNat n =>
      rw [Int.repr, Nat.toList_repr]
      simp only [exponent?, beq_self_eq_true, Bool.true_or, if_true]
      split
      case h_1 heq => exact absurd (isDigit_of_toDigits_append heq) (by decide)
      case h_2 heq => exact absurd (isDigit_of_toDigits_append heq) (by decide)
      case h_3 => simp [exponentDigits?_toDigits false n h]
  | negSucc n =>
      have hn := exponentDigits?_toDigits true n.succ h
      rw [Int.repr]
      simp [exponent?, hn, Int.negSucc_eq, Nat.toList_repr]

theorem number?_decimal (negative : Bool) (n : Nat) (e : Int) (h : Stops rest) :
    number? negative (Nat.toDigits 10 n ++ 'e' :: (e.repr.toList ++ rest)) =
      some (.number (.decimal negative n e), rest) := by
  have hwhole : wholePart? (Nat.toDigits 10 n ++ 'e' :: (e.repr.toList ++ rest)) =
      some (Nat.toDigits 10 n, 'e' :: (e.repr.toList ++ rest)) :=
    wholePart?_toDigits n (by simp)
  simp [number?, hwhole, fraction?, exponent?_repr e h, Text.ofDigits?_toDigits]

theorem next?_of_isDigit {c : Char} (hc : c.isDigit = true) (cs : List Char) :
    next? (c :: cs) = number? false (c :: cs) := by
  rw [next?.eq_def]
  split
  case h_12 => rfl
  all_goals
    rename_i heq
    obtain ⟨rfl, -⟩ := List.cons.inj heq
    exact absurd hc (by decide)

theorem next?_toDigits_append (n : Nat) (rest : List Char) :
    next? (Nat.toDigits 10 n ++ rest) = number? false (Nat.toDigits 10 n ++ rest) := by
  obtain ⟨c, cs, heq, hc⟩ := exists_digit n rest
  rw [heq, next?_of_isDigit hc]

/-- A written number is read back. -/
theorem next?_numberText (n : JsonNumber) (h : Stops rest) :
    next? (Json.numberText n ++ rest) = some (.number n, rest) := by
  cases n with
  | natural n =>
      rw [Json.numberText, Nat.toString_eq_repr, Nat.toList_repr, next?_toDigits_append,
        number?_toDigits n h]
  | decimal negative n e =>
      cases negative with
      | false =>
          simp [Json.numberText, Nat.toList_repr, next?_toDigits_append, number?_decimal false n e h]
      | true => simp [Json.numberText, Nat.toList_repr, next?, number?_decimal true n e h]

theorem exists_numberText (n : JsonNumber) :
    ∃ c cs, Json.numberText n = c :: cs ∧ isBlank c = false := by
  have hdigits : ∀ (m : Nat) (rest : List Char),
      ∃ c cs, Nat.toDigits 10 m ++ rest = c :: cs ∧ isBlank c = false := by
    intro m rest
    obtain ⟨c, cs, heq, hc⟩ := exists_digit m rest
    refine ⟨c, cs, heq, Bool.eq_false_iff.2 fun hblank => ?_⟩
    have hstop := continuesNumber_of_isBlank hblank
    simp [continuesNumber, hc] at hstop
  cases n with
  | natural n => simpa [Json.numberText, Nat.toList_repr] using hdigits n []
  | decimal negative n e =>
      cases negative with
      | true => exact ⟨_, _, rfl, rfl⟩
      | false => simpa [Json.numberText, Nat.toList_repr] using hdigits n ('e' :: e.repr.toList)

/-! ### Sequences of tokens -/

/-- A text spells tokens, with blanks between them. -/
inductive Spells : List Char → List JsonToken → Prop
  | nil : Spells [] []
  | blank {c : Char} {cs : List Char} {ts : List JsonToken} :
      isBlank c = true → Spells cs ts → Spells (c :: cs) ts
  | token {c : Char} {word cs : List Char} {t : JsonToken} {ts : List JsonToken} :
      isBlank c = false → next? (c :: word ++ cs) = some (t, cs) → Spells cs ts →
      Spells (c :: word ++ cs) (t :: ts)

theorem Spells.length_le {cs : List Char} {ts : List JsonToken} (h : Spells cs ts) :
    ts.length ≤ cs.length := by
  induction h with
  | nil => exact Nat.le_refl 0
  | blank _ _ ih =>
      rw [List.length_cons]
      omega
  | token _ _ _ ih =>
      rw [List.length_cons, List.length_append, List.length_cons]
      omega

/-- Scanning finds the tokens that a text spells. -/
theorem Spells.scan? {cs : List Char} {ts : List JsonToken} (h : Spells cs ts) {fuel : Nat}
    (hfuel : ts.length < fuel) : scan? fuel cs = some ts := by
  induction h generalizing fuel with
  | nil =>
      obtain ⟨fuel, rfl⟩ := Nat.exists_eq_add_one_of_ne_zero (Nat.ne_zero_of_lt hfuel)
      rfl
  | blank hblank _ ih =>
      rw [← ih hfuel]
      obtain ⟨fuel, rfl⟩ := Nat.exists_eq_add_one_of_ne_zero (Nat.ne_zero_of_lt hfuel)
      rw [JsonToken.scan?, List.dropWhile_cons_of_pos hblank, JsonToken.scan?]
  | token hblank hnext _ ih =>
      obtain ⟨fuel, rfl⟩ := Nat.exists_eq_add_one_of_ne_zero (Nat.ne_zero_of_lt hfuel)
      rw [JsonToken.scan?, List.cons_append, List.dropWhile_cons_of_neg (by simp [hblank])]
      rw [List.length_cons] at hfuel
      simp only [← List.cons_append, hnext]
      simp [ih (Nat.lt_of_succ_lt_succ hfuel)]

/-- A text is read as tokens wherever it stands before what does not continue a number. -/
def Writes (cs : List Char) (ts : List JsonToken) : Prop :=
  ∀ rest more, Stops rest → Spells rest more → Spells (cs ++ rest) (ts ++ more)

namespace Writes

variable {cs ds blanks : List Char} {ts us : List JsonToken}

theorem nil : Writes [] [] := fun _ _ _ h => h

theorem token {c : Char} {word : List Char} {t : JsonToken} (hblank : isBlank c = false)
    (hnext : ∀ rest, Stops rest → next? (c :: word ++ rest) = some (t, rest)) :
    Writes (c :: word) [t] :=
  fun rest _ hstops h => .token hblank (hnext rest hstops) h

/-- A token that is one character, before others. -/
theorem mark {c : Char} {t : JsonToken} (hblank : isBlank c = false)
    (hnext : ∀ rest, next? (c :: rest) = some (t, rest)) (h : Writes cs ts) :
    Writes (c :: cs) (t :: ts) :=
  fun rest more hstops hrest => @Spells.token c [] _ _ _ hblank (hnext _) (h rest more hstops hrest)

theorem after_blanks (hblanks : ∀ c ∈ blanks, isBlank c = true) (h : Writes cs ts) :
    Writes (blanks ++ cs) ts := by
  intro rest more hstops hrest
  induction blanks with
  | nil => exact h rest more hstops hrest
  | cons b blanks ih =>
      exact .blank (hblanks b List.mem_cons_self)
        (ih fun c hc => hblanks c (List.mem_cons_of_mem _ hc))

theorem append (hcs : Writes cs ts) (hds : Writes ds us)
    (hstops : ∀ rest, Stops rest → Stops (ds ++ rest)) : Writes (cs ++ ds) (ts ++ us) := by
  intro rest more hrest h
  rw [List.append_assoc, List.append_assoc]
  exact hcs _ _ (hstops rest hrest) (hds rest more hrest h)

theorem comma (hcs : Writes cs ts) (hds : Writes ds us) :
    Writes (cs ++ ',' :: ds) (ts ++ .comma :: us) :=
  hcs.append (hds.mark rfl fun _ => rfl) fun _ _ => stops_cons rfl _

theorem quoted (s : String) : Writes (Json.quoted s.toList) [.text (some s)] := by
  refine .token rfl fun rest _ => ?_
  exact next?_quoted s rest

theorem numberText (n : JsonNumber) : Writes (Json.numberText n) [.number n] := by
  obtain ⟨c, cs, heq, hblank⟩ := exists_numberText n
  rw [heq]
  refine .token hblank fun rest hstops => ?_
  rw [← heq]
  exact next?_numberText n hstops

end Writes

end Crosscheck.JsonToken
