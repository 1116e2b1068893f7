import Crosscheck.Text.Blank
import Crosscheck.Text.CaseFolding
import Crosscheck.Text.Category

/-!
# Crosscheck.Pattern.CodeSet

**Sets of code points, and the classes that patterns name.** A pattern is read either over all
characters or, on request, over single bytes; a byte set may then hold code points below 128 only,
because a part of a longer character can never be matched.
-/

namespace Crosscheck

/-- A set of code points. -/
abbrev CodeSet := Nat → Bool

namespace CodeSet

/-- The code points of some inclusive ranges. -/
def ofRanges (ranges : List (Nat × Nat)) : CodeSet := fun n =>
  ranges.any fun (low, high) => decide (low ≤ n) && decide (n ≤ high)

/-- The code points between two, ends included. -/
def between (low high : Nat) : CodeSet := fun n => decide (low ≤ n) && decide (n ≤ high)

/-- A single code point. -/
def single (codePoint : Nat) : CodeSet := fun n => n == codePoint

/-- No code points. -/
def none : CodeSet := fun _ => false

/-- All code points that are not in the set. -/
def complement (s : CodeSet) : CodeSet := fun n => !s n

/-- The code points of either set. -/
def union (s t : CodeSet) : CodeSet := fun n => s n || t n

/-- The code points of both sets. -/
def intersection (s t : CodeSet) : CodeSet := fun n => s n && t n

/-- The code points of the first set that are not in the second. -/
def difference (s t : CodeSet) : CodeSet := fun n => s n && !t n

/-- The code points of exactly one of the sets. -/
def symmetricDifference (s t : CodeSet) : CodeSet := fun n => s n != t n

/-- The set or its complement. -/
def negatedIf (negated : Bool) (s : CodeSet) : CodeSet := if negated then s.complement else s

/-- The set, closed under change of case. -/
def foldCase (overBytes : Bool) (s : CodeSet) : CodeSet := fun n =>
  (if overBytes then Text.basicCaseVariants n else Text.caseVariants n).any s

/-- Whether a set of bytes has none from 128 on. -/
def isBasic (s : CodeSet) : Bool := (List.range 128).all fun n => !s (128 + n)

/-- Decimal digits. -/
def digits (overBytes : Bool) : CodeSet :=
  if overBytes then between 48 57 else Text.isDecimalDigit

/-- Blanks. -/
def blanks (overBytes : Bool) : CodeSet :=
  if overBytes then ofRanges [(9, 13), (32, 32)] else ofRanges Text.blankRanges

/-- Word characters. -/
def wordCharacters (overBytes : Bool) : CodeSet := if overBytes then Text.isBasicWord else Text.isWord

/-- The classes of the basic alphabet that brackets name, by name. -/
def namedBasic? : String → Option CodeSet
  | "alnum" => some (ofRanges [(48, 57), (65, 90), (97, 122)])
  | "alpha" => some (ofRanges [(65, 90), (97, 122)])
  | "ascii" => some (between 0 127)
  | "blank" => some (ofRanges [(9, 9), (32, 32)])
  | "cntrl" => some (ofRanges [(0, 31), (127, 127)])
  | "digit" => some (between 48 57)
  | "graph" => some (between 33 126)
  | "lower" => some (between 97 122)
  | "print" => some (between 32 126)
  | "punct" => some (ofRanges [(33, 47), (58, 64), (91, 96), (123, 126)])
  | "space" => some (ofRanges [(9, 13), (32, 32)])
  | "upper" => some (between 65 90)
  | "word" => some (ofRanges [(48, 57), (65, 90), (95, 95), (97, 122)])
  | "xdigit" => some (ofRanges [(48, 57), (65, 70), (97, 102)])
  | _ => Option.none

/-- The general categories a name stands for, as beginnings of two-letter codes. -/
def categoriesNamed? (name : String) : Option (List String) :=
  match name with
  | "l" | "letter" => some ["L"]
  | "lc" | "casedletter" => some ["Lu", "Ll", "Lt"]
  | "lu" | "uppercaseletter" => some ["Lu"]
  | "ll" | "lowercaseletter" => some ["Ll"]
  | "lt" | "titlecaseletter" => some ["Lt"]
  | "lm" | "modifierletter" => some ["Lm"]
  | "lo" | "otherletter" => some ["Lo"]
  | "m" | "mark" | "combiningmark" => some ["M"]
  | "mn" | "nonspacingmark" => some ["Mn"]
  | "mc" | "spacingmark" => some ["Mc"]
  | "me" | "enclosingmark" => some ["Me"]
  | "n" | "number" => some ["N"]
  | "nd" | "decimalnumber" | "digit" => some ["Nd"]
  | "nl" | "letternumber" => some ["Nl"]
  | "no" | "othernumber" => some ["No"]
  | "p" | "punctuation" | "punct" => some ["P"]
  | "pc" | "connectorpunctuation" => some ["Pc"]
  | "pd" | "dashpunctuation" => some ["Pd"]
  | "ps" | "openpunctuation" => some ["Ps"]
  | "pe" | "closepunctuation" => some ["Pe"]
  | "pi" | "initialpunctuation" => some ["Pi"]
  | "pf" | "finalpunctuation" => some ["Pf"]
  | "po" | "otherpunctuation" => some ["Po"]
  | "s" | "symbol" => some ["S"]
  | "sm" | "mathsymbol" => some ["Sm"]
  | "sc" | "currencysymbol" => some ["Sc"]
  | "sk" | "modifiersymbol" => some ["Sk"]
  | "so" | "othersymbol" => some ["So"]
  | "z" | "separator" => some ["Z"]
  | "zs" | "spaceseparator" => some ["Zs"]
  | "zl" | "lineseparator" => some ["Zl"]
  | "zp" | "paragraphseparator" => some ["Zp"]
  | "c" | "other" => some ["C"]
  | "cc" | "control" | "cntrl" => some ["Cc"]
  | "cf" | "format" => some ["Cf"]
  | "cn" | "unassigned" => some ["Cn"]
  | "co" | "privateuse" => some ["Co"]
  | _ => Option.none

/-- The code points of some general categories. -/
def ofCategories (starts : List String) : CodeSet := fun n =>
  starts.any fun start => (Text.category n).startsWith start

/-- The code points of the scripts that can be named. -/
def scriptNamed? : String → Option CodeSet
  | "latin" | "latn" => some (intersection (ofCategories ["L"]) (ofRanges
      [(0x41, 0x5A), (0x61, 0x7A), (0xAA, 0xAA), (0xBA, 0xBA), (0xC0, 0x2B8), (0x2E0, 0x2E4),
       (0x1D00, 0x1D25), (0x1D2C, 0x1D5C), (0x1D62, 0x1D65), (0x1D6B, 0x1D77), (0x1D79, 0x1DBE),
       (0x1E00, 0x1EFF), (0x2071, 0x209C), (0x212A, 0x212B), (0x2132, 0x2132), (0x214E, 0x214E),
       (0x2C60, 0x2C7F), (0xA722, 0xA787), (0xA78B, 0xA7FF), (0xAB30, 0xAB64), (0xFB00, 0xFB06),
       (0xFF21, 0xFF3A), (0xFF41, 0xFF5A)]))
  | "greek" | "grek" => some (intersection (ofCategories ["L"]) (ofRanges
      [(0x370, 0x373), (0x375, 0x377), (0x37A, 0x37D), (0x37F, 0x37F), (0x384, 0x384),
       (0x386, 0x386), (0x388, 0x3E1), (0x3F0, 0x3FF), (0x1F00, 0x1FFE), (0x2126, 0x2126)]))
  | "cyrillic" | "cyrl" => some (ofRanges
      [(0x400, 0x484), (0x487, 0x52F), (0x1C80, 0x1C88), (0x1D2B, 0x1D2B), (0x1D78, 0x1D78),
       (0x2DE0, 0x2DFF), (0xA640, 0xA69F)])
  | "han" | "hani" => some (ofRanges
      [(0x2E80, 0x2E99), (0x2E9B, 0x2EF3), (0x2F00, 0x2FD5), (0x3005, 0x3005), (0x3007, 0x3007),
       (0x3021, 0x3029), (0x3038, 0x303B), (0x3400, 0x4DBF), (0x4E00, 0x9FFF), (0xF900, 0xFA6D),
       (0xFA70, 0xFAD9), (0x20000, 0x323AF)])
  | "hiragana" | "hira" => some (ofRanges [(0x3041, 0x3096), (0x309D, 0x309F)])
  | "katakana" | "kana" => some (ofRanges
      [(0x30A1, 0x30FA), (0x30FD, 0x30FF), (0x31F0, 0x31FF), (0xFF66, 0xFF6F), (0xFF71, 0xFF9D)])
  | "hebrew" | "hebr" => some (ofRanges [(0x591, 0x5C7), (0x5D0, 0x5EA), (0x5EF, 0x5F4)])
  | "arabic" | "arab" => some (intersection (ofCategories ["L", "M"]) (ofRanges
      [(0x600, 0x6FF), (0x750, 0x77F), (0x8A0, 0x8FF), (0xFB50, 0xFDFF), (0xFE70, 0xFEFC)]))
  | _ => Option.none

/-- The code points of the binary properties that can be named. -/
def propertyNamed? : String → Option CodeSet
  | "any" => some (fun _ => true)
  | "ascii" => some (between 0 127)
  | "assigned" => some (ofCategories ["Cn"]).complement
  | "alphabetic" | "alpha" => some (union (ofCategories ["L", "Nl"]) (ofRanges Text.wordExtras.tail))
  | "lowercase" | "lower" => some (ofCategories ["Ll"])
  | "uppercase" | "upper" => some (ofCategories ["Lu"])
  | "whitespace" | "space" | "wspace" => some (ofRanges Text.blankRanges)
  | "asciihexdigit" | "ahex" => some (ofRanges [(48, 57), (65, 70), (97, 102)])
  | _ => Option.none

/-- A property name without what spelling leaves open: case, blanks, hyphens and underscores. -/
def looseName (name : List Char) : String :=
  String.ofList ((name.filter fun c => c != ' ' && c != '-' && c != '_').map Char.toLower)

/-- The code points of a property: a category, a script or a binary property, in this order. -/
def ofProperty? (name : List Char) : Option CodeSet :=
  let loose := looseName name
  match categoriesNamed? loose with
  | some starts => some (ofCategories starts)
  | Option.none =>
    match scriptNamed? loose with
    | some s => some s
    | Option.none => propertyNamed? loose

/-- The code points whose property `key` has the given value. -/
def ofPropertyValue? (key value : List Char) : Option CodeSet :=
  match looseName key with
  | "gc" | "generalcategory" => (categoriesNamed? (looseName value)).map ofCategories
  | "sc" | "script" | "scx" | "scriptextensions" => scriptNamed? (looseName value)
  | _ => Option.none

end CodeSet

end Crosscheck
