import Crosscheck.Json.Basic
import Crosscheck.Text.Numeral

/-!
# Crosscheck.Json.Token

**The words of JSON.** A JSON text is a sequence of tokens with blanks between them; which blanks
those are makes no difference.
-/

namespace Crosscheck

/-- A word of JSON. -/
inductive JsonToken where
  /-- An opening bracket. -/
  | openArray
  /-- A closing bracket. -/
  | closeArray
  /-- An opening brace. -/
  | openObject
  /-- A closing brace. -/
  | closeObject
  /-- A comma. -/
  | comma
  /-- A colon. -/
  | colon
  /-- The literal `null`. -/
  | null
  /-- One of the literals `true` and `false`. -/
  | bool (b : Bool)
  /-- A number. -/
  | number (n : JsonNumber)
  /-- A string; `none` if it stands for no text. -/
  | text (s : Option String)
  deriving DecidableEq, Repr

namespace JsonToken

/-- The characters between tokens. -/
def isBlank (c : Char) : Bool := c == ' ' || c == '\n' || c == '\t' || c == '\r'

/-- The character that a backslash and a letter stand for. -/
def escaped? : Char → Option Char
  | '"' => some '"'
  | '\\' => some '\\'
  | '/' => some '/'
  | 'b' => some '\x08'
  | 'f' => some '\x0c'
  | 'n' => some '\n'
  | 'r' => some '\r'
  | 't' => some '\t'
  | _ => none

/-- Reads a string after its opening quote: the codes it spells, halves of surrogate pairs among
them, and what follows the closing quote. Control characters have to be escaped. -/
def codes? : List Char → Option (List Nat × List Char)
  | '"' :: rest => some ([], rest)
  | '\\' :: 'u' :: a :: b :: c :: d :: rest => do
    let code ← Text.ofDigits? 16 [a, b, c, d]
    let (codes, rest) ← codes? rest
    some (code :: codes, rest)
  | '\\' :: c :: rest => do
    let c ← escaped? c
    let (codes, rest) ← codes? rest
    some (c.toNat :: codes, rest)
  | c :: rest => do
    let (codes, rest) ← if c.toNat < 32 || c == '\\' then none else codes? rest
    some (c.toNat :: codes, rest)
  | [] => none

/-- Whether a code is the first half of a surrogate pair. -/
def isHighSurrogate (code : Nat) : Bool := decide (0xD800 ≤ code) && decide (code < 0xDC00)

/-- Whether a code is the second half of a surrogate pair. -/
def isLowSurrogate (code : Nat) : Bool := decide (0xDC00 ≤ code) && decide (code < 0xE000)

/-- The characters that codes spell; `none` if half of a surrogate pair stands alone. -/
def charactersOf? : List Nat → Option (List Char)
  | [] => some []
  | high :: low :: rest =>
    if isHighSurrogate high && isLowSurrogate low then
      (charactersOf? rest).map
        (Char.ofNat (0x10000 + (high - 0xD800) * 0x400 + (low - 0xDC00)) :: ·)
    else if isHighSurrogate high || isLowSurrogate high then none
    else (charactersOf? (low :: rest)).map (Char.ofNat high :: ·)
  | [code] =>
    if isHighSurrogate code || isLowSurrogate code then none else some [Char.ofNat code]

/-- Splits off the digits at the front. -/
def digits (cs : List Char) : List Char × List Char :=
  (cs.takeWhile Char.isDigit, cs.dropWhile Char.isDigit)

/-- The whole part of a number: a zero alone, or digits that do not start with one. -/
def wholePart? (cs : List Char) : Option (List Char × List Char) :=
  match digits cs with
  | ([], _) => none
  | (['0'], rest) => some (['0'], rest)
  | ('0' :: _, _) => none
  | (ds, rest) => some (ds, rest)

/-- The digits after a decimal point, if there is one. -/
def fraction? : List Char → Option (Option (List Char) × List Char)
  | '.' :: rest =>
    match digits rest with
    | ([], _) => none
    | (ds, rest) => some (some ds, rest)
  | cs => some (none, cs)

/-- The digits of an exponent. -/
def exponentDigits? (negative : Bool) (cs : List Char) : Option (Option Int × List Char) :=
  match digits cs with
  | ([], _) => none
  | (ds, rest) => do
    let n ← Text.ofDigits? 10 ds
    some (some (if negative then -(n : Int) else n), rest)

/-- The exponent of a number, if there is one. -/
def exponent? : List Char → Option (Option Int × List Char)
  | c :: rest =>
    if c == 'e' || c == 'E' then
      match rest with
      | '-' :: rest => exponentDigits? true rest
      | '+' :: rest => exponentDigits? false rest
      | _ => exponentDigits? false rest
    else some (none, c :: rest)
  | [] => some (none, [])

/-- Reads a number after its sign. -/
def number? (negative : Bool) (cs : List Char) : Option (JsonToken × List Char) := do
  let (whole, rest) ← wholePart? cs
  let (places, rest) ← fraction? rest
  let (exponent, rest) ← exponent? rest
  let n ← Text.ofDigits? 10 (whole ++ places.getD [])
  if negative || places.isSome || exponent.isSome then
    some (.number (.decimal negative n (exponent.getD 0 - (places.getD []).length)), rest)
  else some (.number (.natural n), rest)

/-- Reads the token at the front. -/
def next? : List Char → Option (JsonToken × List Char)
  | '[' :: rest => some (.openArray, rest)
  | ']' :: rest => some (.closeArray, rest)
  | '\x7b' :: rest => some (.openObject, rest)
  | '\x7d' :: rest => some (.closeObject, rest)
  | ',' :: rest => some (.comma, rest)
  | ':' :: rest => some (.colon, rest)
  | 'n' :: 'u' :: 'l' :: 'l' :: rest => some (.null, rest)
  | 't' :: 'r' :: 'u' :: 'e' :: rest => some (.bool true, rest)
  | 'f' :: 'a' :: 'l' :: 's' :: 'e' :: rest => some (.bool false, rest)
  | '"' :: rest => do
    let (codes, rest) ← codes? rest
    some (.text ((charactersOf? codes).map String.ofList), rest)
  | '-' :: rest => number? true rest
  | cs => number? false cs

/-- The tokens of a text; every one takes a character, so `fuel` is enough if it exceeds the length
of the text. -/
def scan? : (fuel : Nat) → List Char → Option (List JsonToken)
  | 0, _ => none
  | fuel + 1, cs =>
    match cs.dropWhile isBlank with
    | [] => some []
    | cs => do
      let (token, rest) ← next? cs
      let tokens ← scan? fuel rest
      some (token :: tokens)

/-- The tokens of a text. -/
def ofText? (s : String) : Option (List JsonToken) := scan? (s.length + 1) s.toList

end JsonToken

end Crosscheck
