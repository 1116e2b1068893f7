/-!
# Crosscheck.Yaml.Cursor

**A place in a YAML text.** The layout of YAML depends on lines and columns, so reading keeps both
with the rest of the text. A line end is a line feed, a carriage return, the two together, or one of
three further separators; the last two of those stay what they are inside a text, all others read as
line feeds.
-/

namespace Crosscheck.Yaml

/-- A place in a text. -/
structure Cursor where
  /-- What follows. -/
  rest : List Char
  /-- How many characters precede. -/
  index : Nat
  /-- How many lines precede. -/
  line : Nat
  /-- How many characters of the line precede. -/
  column : Nat
  deriving DecidableEq, Repr

/-- Whether a character may be in a text at all. -/
def isPermitted (c : Char) : Bool :=
  let n := c.toNat
  n == 0x9 || n == 0xA || n == 0xD || (decide (0x20 ≤ n) && decide (n ≤ 0x7E)) || n == 0x85
    || (decide (0xA0 ≤ n) && n != 0xFFFE && n != 0xFFFF)

/-- Whether a character ends a line. -/
def isBreak (c : Char) : Bool :=
  c == '\n' || c == '\r' || c == '\u0085' || c == '\u2028' || c == '\u2029'

/-- Whether a character is a blank inside a line. -/
def isSpace (c : Char) : Bool := c == ' ' || c == '\t'

/-- Whether a text is over, or goes on with a blank or the end of a line. -/
def startsBlank : List Char → Bool
  | [] => true
  | c :: _ => isSpace c || isBreak c

/-- Whether a character can be part of a name. -/
def isNameChar (c : Char) : Bool := c.isAlphanum || c == '_' || c == '-'

namespace Cursor

/-- The start of a text, after its byte order mark. -/
def ofText (cs : List Char) : Cursor :=
  match cs with
  | '\uFEFF' :: cs => ⟨cs, 0, 0, 0⟩
  | cs => ⟨cs, 0, 0, 0⟩

/-- The next character. -/
def peek? (c : Cursor) : Option Char := c.rest.head?

/-- The place `n` characters further on in the same line. -/
def skip (c : Cursor) (n : Nat) : Cursor :=
  ⟨c.rest.drop n, c.index + n, c.line, c.column + n⟩

/-- The place after a line end. -/
def skipBreak (c : Cursor) : Cursor :=
  match c.rest with
  | '\r' :: '\n' :: rest => ⟨rest, c.index + 2, c.line + 1, 0⟩
  | b :: rest => if isBreak b then ⟨rest, c.index + 1, c.line + 1, 0⟩ else c
  | [] => c

/-- What a line end reads as. -/
def breakText (c : Cursor) : List Char :=
  match c.rest with
  | b :: _ => if b == '\u2028' || b == '\u2029' then [b] else if isBreak b then ['\n'] else []
  | [] => []

/-- The characters of a class at the front, and the place after them. -/
def span (c : Cursor) (p : Char → Bool) : List Char × Cursor :=
  let taken := c.rest.takeWhile p
  (taken, c.skip taken.length)

/-- The place after the characters of a class. -/
def skipWhile (c : Cursor) (p : Char → Bool) : Cursor := (c.span p).2

/-- Whether a line starts here with the given three characters and a blank. -/
def startsWithMark (c : Cursor) (mark : Char) : Bool :=
  c.column == 0 && c.rest.take 3 == [mark, mark, mark] && startsBlank (c.rest.drop 3)

/-- Whether a document starts or ends here. -/
def atDocumentMark (c : Cursor) : Bool := c.startsWithMark '-' || c.startsWithMark '.'

/-- Passes over blanks and a comment up to the end of the line, which has to come then. -/
def skipLineRest? (c : Cursor) : Option Cursor :=
  let c := c.skipWhile isSpace
  let c := if c.peek? = some '#' then c.skipWhile (!isBreak ·) else c
  match c.rest with
  | [] => some c
  | b :: _ => if isBreak b then some c.skipBreak else none

end Cursor

end Crosscheck.Yaml
