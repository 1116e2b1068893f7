/-!
# Crosscheck.Text.Blank

**Blank characters, trimming and words.** The blank characters are those of the standard's
white-space property; the table below lists all of them.
-/

namespace Crosscheck.Text

/-- The blank characters, as inclusive ranges of code points. -/
def blankRanges : List (Nat × Nat) :=
  [(0x9, 0xD), (0x20, 0x20), (0x85, 0x85), (0xA0, 0xA0), (0x1680, 0x1680), (0x2000, 0x200A),
   (0x2028, 0x2029), (0x202F, 0x202F), (0x205F, 0x205F), (0x3000, 0x3000)]

/-- Whether a character is blank. -/
def isBlank (c : Char) : Bool :=
  blankRanges.any fun (low, high) => decide (low ≤ c.toNat) && decide (c.toNat ≤ high)

/-- The text without its leading blanks. -/
def trimStart (cs : List Char) : List Char := cs.dropWhile isBlank

/-- The text without its trailing blanks. -/
def trimEnd (cs : List Char) : List Char := (cs.reverse.dropWhile isBlank).reverse

/-- The text without leading and trailing blanks. -/
def trim (cs : List Char) : List Char := trimEnd (trimStart cs)

/-- Whether a text has only blanks in it. -/
def isBlankText (s : String) : Bool := s.toList.all isBlank

/-- The maximal runs of characters outside the class `sep`, from left to right; `word` is the run
that is being read, last character first. -/
def fieldsFrom (sep : Char → Bool) (word : List Char) : List Char → List (List Char)
  | [] => if word.isEmpty then [] else [word.reverse]
  | c :: cs =>
    if sep c then
      if word.isEmpty then fieldsFrom sep [] cs else word.reverse :: fieldsFrom sep [] cs
    else fieldsFrom sep (c :: word) cs

/-- The words of a text: its maximal runs of characters that are not blank. -/
def words (cs : List Char) : List (List Char) := fieldsFrom isBlank [] cs

/-- The pieces between single separators, empty pieces included; never an empty list. -/
def splitOnChar (sep : Char) : List Char → List (List Char)
  | [] => [[]]
  | c :: cs =>
    if c = sep then [] :: splitOnChar sep cs
    else
      match splitOnChar sep cs with
      | [] => [[c]]
      | piece :: pieces => (c :: piece) :: pieces

/-- The rest of a text after a given beginning, if it begins so. -/
def dropPrefix? : (start text : List Char) → Option (List Char)
  | [], text => some text
  | _ :: _, [] => none
  | c :: start, d :: text => if c = d then dropPrefix? start text else none

theorem dropPrefix?_eq_some_iff {start text rest : List Char} :
    dropPrefix? start text = some rest ↔ text = start ++ rest := by
  induction start generalizing text with
  | nil => simp [dropPrefix?, eq_comm]
  | cons c start ih =>
    cases text with
    | nil => simp [dropPrefix?]
    | cons d text =>
      by_cases h : c = d
      · simp [dropPrefix?, h, ih]
      · simp [dropPrefix?, h, Ne.symm h]

end Crosscheck.Text
