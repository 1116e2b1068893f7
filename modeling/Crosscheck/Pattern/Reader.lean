import Crosscheck.Pattern.Regex

/-!
# Crosscheck.Pattern.Reader

**Reading regular expressions.** `Regex.ofPattern?` reads the usual notation: alternation,
repetition with counts, groups with names and flags, brackets with set operations, escapes and
anchors. There are no back references and no look-around, which is what keeps matching a set
question.

* Flags are letters in `(?...)`. They hold up to the end of the enclosing group.
* An expression that is nested too deeply, or whose counted repetitions unfold into too much, is
  refused, as is everything that could only be a mistake: a repetition of nothing, an empty or
  reversed range, a group name used twice.
* `Regex.escape` writes a text as a pattern for exactly that text.
-/

namespace Crosscheck

/-- What flags say about the rest of a group. -/
structure PatternFlags where
  /-- Case does not matter. -/
  ignoreCase : Bool := false
  /-- `^` and `$` are about lines. -/
  multiLine : Bool := false
  /-- `.` matches line ends as well. -/
  dotAll : Bool := false
  /-- Classes are about bytes. -/
  overBytes : Bool := false
  /-- Carriage returns end lines as well. -/
  crlf : Bool := false
  /-- Blanks and comments in the pattern are skipped. -/
  ignoreSpace : Bool := false
  deriving DecidableEq, Repr

/-- A part of a pattern that has been read. -/
structure PatternItem where
  /-- The expression. -/
  regex : Regex
  /-- How deeply it is nested. -/
  height : Nat
  /-- How many matches of single bytes or of conditions it unfolds into. -/
  weight : Nat
  /-- Whether it is something that can be repeated; flags alone are not. -/
  repeatable : Bool := true

/-- What an escape sequence stands for. -/
inductive Escaped where
  /-- A character; a two-digit code can stand for a byte. -/
  | char (codePoint : Nat) (isByte : Bool)
  /-- A class. -/
  | set (s : CodeSet)
  /-- A condition. -/
  | anchor (a : Anchor)

namespace Pattern

/-- The deepest nesting that is accepted. -/
def heightLimit : Nat := 250

/-- How many bytes the automaton of an expression may take up: ten mebibytes. -/
def sizeLimit : Nat := 10 * 1024 * 1024

/-- How many bytes a state of the automaton takes up: a tag, a range of bytes and a successor, or a
list of successors. -/
def stateSize : Nat := 24

/-- The largest unfolding that is accepted: there is one state for each match of a single byte. -/
def weightLimit : Nat := sizeLimit / stateSize

/-- The weight of a class with characters beyond the basic alphabet. The automaton matches the bytes of
a character one after the other, and how many states that takes depends on the class. This is about what
the larger classes take; it matters only to expressions with thousands of such classes. -/
def wideWeight : Nat := 40

/-- The pattern without leading blanks and comments; a comment runs from `#` to the line's end. -/
def skipSpaceFrom (inComment : Bool) : List Char → List Char
  | [] => []
  | c :: cs =>
    if inComment then skipSpaceFrom (c != '\n') cs
    else if Text.isBlank c then skipSpaceFrom false cs
    else if c = '#' then skipSpaceFrom true cs
    else c :: cs

/-- The pattern from the next character on that counts. -/
def skip (f : PatternFlags) (cs : List Char) : List Char :=
  if f.ignoreSpace then skipSpaceFrom false cs else cs

/-! ### Escapes -/

/-- Characters that have a meaning of their own somewhere in patterns. -/
def isMeta (c : Char) : Bool := "\\.+*?()|[]\x7b\x7d^$#&-~".toList.contains c

/-- Characters that may be escaped although they need not be: all of the basic alphabet that are
neither letters nor digits, except the angle brackets, which are anchors when escaped. -/
def isEscapable (c : Char) : Bool :=
  isMeta c || (decide (c.toNat < 128) && !(c.isAlphanum) && c != '<' && c != '>')

/-- Whether a number is the code of a character. -/
def isCode (n : Nat) : Bool := decide (n < 0xD800) || (decide (0xE000 ≤ n) && decide (n < 0x110000))

/-- Reads exactly `n` hexadecimal digits. -/
def hexDigits? (f : PatternFlags) : (n value : Nat) → List Char → Option (Nat × List Char)
  | 0, value, cs => some (value, cs)
  | n + 1, value, cs =>
    match cs with
    | c :: rest => do
      let d ← Text.hexValue? c
      hexDigits? f n (value * 16 + d) (skip f rest)
    | [] => none

/-- Reads the character code after `\x`, `\u` or `\U`: a fixed number of digits, or any number of
them in braces. -/
def hexCode? (f : PatternFlags) (digits : Nat) (cs : List Char) : Option (Escaped × List Char) := do
  match skip f cs with
  | '\x7b' :: rest =>
    let body := (rest.takeWhile (· != '\x7d')).filter fun c => !(f.ignoreSpace && Text.isBlank c)
    let code ← Text.ofDigits? 16 body
    match rest.dropWhile (· != '\x7d') with
    | _ :: after => if isCode code then some (.char code false, skip f after) else none
    | [] => none
  | cs' =>
    let (code, after) ← hexDigits? f digits 0 cs'
    if isCode code then some (.char code (digits == 2), after) else none

/-- Splits a property at its first relation sign, if it has one. -/
def propertyParts (name : List Char) : List Char × Option (Bool × List Char) :=
  let key := name.takeWhile fun c => c != ':' && c != '='
  match name.dropWhile fun c => c != ':' && c != '=' with
  | [] => (name, none)
  | _ :: value =>
    match key.reverse with
    | '!' :: key' => (key'.reverse, some (true, value))
    | _ => (key, some (false, value))

/-- The code points of a property, as written between braces. -/
def propertySet? (name : List Char) : Option CodeSet :=
  match propertyParts name with
  | (key, none) => CodeSet.ofProperty? key
  | (key, some (negated, value)) =>
    (CodeSet.ofPropertyValue? key value).map (CodeSet.negatedIf negated)

/-- Reads the property after `\p` or `\P`: one letter, or a name in braces. -/
def property? (f : PatternFlags) (negated : Bool) (cs : List Char) :
    Option (Escaped × List Char) := do
  let (name, after) ← match skip f cs with
    | '\x7b' :: rest =>
      match rest.dropWhile (· != '\x7d') with
      | _ :: after => some (rest.takeWhile (· != '\x7d'), after)
      | [] => none
    | '\\' :: _ => none
    | c :: rest => some ([c], rest)
    | [] => none
  let (inner, name) := match name with
    | '^' :: name' => (true, name')
    | _ => (false, name)
  if f.overBytes then none
  else
    let set ← propertySet? name
    let folded := if f.ignoreCase then set.foldCase false else set
    some (.set (CodeSet.negatedIf (negated != inner) folded), after)

/-- Reads a class of one letter; a byte class must not reach beyond the basic alphabet. -/
def letterClass? (f : PatternFlags) (negated : Bool) (s : CodeSet) (cs : List Char) :
    Option (Escaped × List Char) :=
  if f.overBytes && negated then none else some (.set (CodeSet.negatedIf negated s), cs)

/-- Reads what may follow `\b`: the kind of word edge, in braces. Braces with a number are not part
of the escape. -/
def wordEdge? (f : PatternFlags) (cs : List Char) : Option (Escaped × List Char) :=
  let isNameChar (c : Char) : Bool := c.isAlpha || c == '-'
  let plain : Escaped := .anchor (.word .boundary f.overBytes)
  match cs with
  | '\x7b' :: rest =>
    match skip f rest with
    | [] => none
    | c :: _ =>
      let body := skip f rest
      if isNameChar c then
        match String.ofList (body.takeWhile isNameChar), body.dropWhile isNameChar with
        | "start", '\x7d' :: after => some (.anchor (.word .start f.overBytes), after)
        | "end", '\x7d' :: after => some (.anchor (.word .finish f.overBytes), after)
        | "start-half", '\x7d' :: after => some (.anchor (.word .startHalf f.overBytes), after)
        | "end-half", '\x7d' :: after => some (.anchor (.word .finishHalf f.overBytes), after)
        | _, _ => none
      else some (plain, cs)
  | _ => some (plain, cs)

/-- Reads what follows a backslash. -/
def escape? (f : PatternFlags) : List Char → Option (Escaped × List Char)
  | [] => none
  | c :: cs =>
    if isEscapable c then some (.char c.toNat false, cs)
    else
      match c with
      | 'x' => hexCode? f 2 cs
      | 'u' => hexCode? f 4 cs
      | 'U' => hexCode? f 8 cs
      | 'p' => property? f false cs
      | 'P' => property? f true cs
      | 'd' => letterClass? f false (CodeSet.digits f.overBytes) cs
      | 'D' => letterClass? f true (CodeSet.digits f.overBytes) cs
      | 's' => letterClass? f false (CodeSet.blanks f.overBytes) cs
      | 'S' => letterClass? f true (CodeSet.blanks f.overBytes) cs
      | 'w' => letterClass? f false (CodeSet.wordCharacters f.overBytes) cs
      | 'W' => letterClass? f true (CodeSet.wordCharacters f.overBytes) cs
      | 'a' => some (.char 0x07 false, cs)
      | 'f' => some (.char 0x0C false, cs)
      | 't' => some (.char 0x09 false, cs)
      | 'n' => some (.char 0x0A false, cs)
      | 'r' => some (.char 0x0D false, cs)
      | 'v' => some (.char 0x0B false, cs)
      | 'A' => some (.anchor .textStart, cs)
      | 'z' => some (.anchor .textEnd, cs)
      | 'b' => wordEdge? f cs
      | 'B' => some (.anchor (.word .inside f.overBytes), cs)
      | '<' => some (.anchor (.word .start f.overBytes), cs)
      | '>' => some (.anchor (.word .finish f.overBytes), cs)
      | _ => none

/-! ### Single characters -/

/-- The item of a class. -/
def setItem (s : CodeSet) (weight : Nat) : PatternItem := ⟨.char s, 0, weight, true⟩

/-- The item of one character, which weighs as much as it has bytes. -/
def charItem (f : PatternFlags) (codePoint : Nat) : PatternItem :=
  let s := CodeSet.single codePoint
  let folded :=
    if f.ignoreCase ∧ ¬ (f.overBytes ∧ 128 ≤ codePoint) then s.foldCase f.overBytes else s
  setItem folded (Char.ofNat codePoint).utf8Size

/-- The item of an escape sequence; bytes beyond the basic alphabet are never matched. -/
def escapedItem? (f : PatternFlags) : Escaped → Option PatternItem
  | .char code isByte =>
    if f.overBytes ∧ isByte ∧ 128 ≤ code then none else some (charItem f code)
  | .set s => some (setItem s wideWeight)
  | .anchor a => some ⟨.anchor a, 0, 1, true⟩

/-! ### Brackets -/

/-- Set operations in brackets. -/
inductive SetOperation where
  /-- `&&` -/
  | intersection
  /-- `--` -/
  | difference
  /-- `~~` -/
  | symmetricDifference

/-- The set of an operation. -/
def SetOperation.apply : SetOperation → CodeSet → CodeSet → CodeSet
  | .intersection => CodeSet.intersection
  | .difference => CodeSet.difference
  | .symmetricDifference => CodeSet.symmetricDifference

/-- What the operation that is waiting for its right side gives with it. -/
def applyPending (f : PatternFlags) (pending : Option (SetOperation × CodeSet)) (right : CodeSet) :
    CodeSet :=
  match pending with
  | none => right
  | some (op, left) =>
    if f.ignoreCase then op.apply (left.foldCase f.overBytes) (right.foldCase f.overBytes)
    else op.apply left right

/-- The set of a whole pair of brackets. -/
def closeBrackets? (f : PatternFlags) (negated : Bool) (s : CodeSet) : Option CodeSet :=
  let folded := if f.ignoreCase then s.foldCase f.overBytes else s
  let set := CodeSet.negatedIf negated folded
  if f.overBytes && !set.isBasic then none else some set

/-- Reads a class name of the form `[:name:]`, after its opening bracket. -/
def namedClass? (cs : List Char) : Option (CodeSet × List Char) :=
  match cs with
  | ':' :: rest =>
    let (negated, rest) := match rest with
      | '^' :: rest' => (true, rest')
      | _ => (false, rest)
    match rest.dropWhile (· != ':') with
    | ':' :: ']' :: after =>
      (CodeSet.namedBasic? (String.ofList (rest.takeWhile (· != ':')))).map fun s =>
        (CodeSet.negatedIf negated s, after)
    | _ => none
  | _ => none

/-- Reads the hyphens at the beginning of brackets, which stand for themselves. -/
def leadingHyphens (f : PatternFlags) : List Char → Bool × List Char
  | '-' :: cs =>
    let (_, rest) := leadingHyphens f cs
    (true, skip f rest)
  | cs => (false, cs)

/-- Reads the beginning of brackets, after the opening one: whether they are negated, and the
hyphens or the closing bracket that stand for themselves there. -/
def openBrackets (f : PatternFlags) (cs : List Char) : Bool × CodeSet × List Char :=
  let (negated, cs) := match skip f cs with
    | '^' :: rest => (true, skip f rest)
    | rest => (false, rest)
  match leadingHyphens f cs with
  | (true, rest) => (negated, CodeSet.single '-'.toNat, rest)
  | (false, ']' :: rest) => (negated, CodeSet.single ']'.toNat, skip f rest)
  | (false, rest) => (negated, CodeSet.none, rest)

/-- Reads one element of brackets. -/
def bracketElement? (f : PatternFlags) : List Char → Option (Escaped × List Char)
  | [] => none
  | '\\' :: cs => escape? f cs
  | c :: cs => some (.char c.toNat false, cs)

/-- The code point of an element that has to be a character. -/
def elementCode? (f : PatternFlags) : Escaped → Option Nat
  | .char code _ => if f.overBytes ∧ 128 ≤ code then none else some code
  | _ => none

/-- Reads an element of brackets, or a range of them. A hyphen before the closing bracket, or before
another hyphen, makes no range. -/
def bracketRange? (f : PatternFlags) (cs : List Char) : Option (CodeSet × List Char) := do
  let (first, rest) ← bracketElement? f cs
  let single : Option (CodeSet × List Char) :=
    match first with
    | .set s => some (s, rest)
    | .anchor _ => none
    | .char .. => (elementCode? f first).map fun code => (CodeSet.single code, rest)
  match skip f rest with
  | [] => none
  | '-' :: after =>
    match skip f after with
    | [] => none
    | ']' :: _ => single
    | '-' :: _ => single
    | after' =>
      let (last, rest') ← bracketElement? f after'
      let low ← elementCode? f first
      let high ← elementCode? f last
      if low ≤ high then some (CodeSet.between low high, rest') else none
  | _ => single

/-- Reads brackets up to their closing one: `union` is what the current operand holds so far, and
`pending` the operation that waits for it. -/
def bracketItems? (f : PatternFlags) (negated : Bool) :
    (fuel : Nat) → (pending : Option (SetOperation × CodeSet)) → (union : CodeSet) → List Char →
    Option (CodeSet × List Char)
  | 0, _, _, _ => none
  | fuel + 1, pending, union, cs =>
    let operation (op : SetOperation) (rest : List Char) :=
      bracketItems? f negated fuel (some (op, applyPending f pending union)) CodeSet.none rest
    match skip f cs with
    | [] => none
    | ']' :: rest =>
      (closeBrackets? f negated (applyPending f pending union)).map fun s => (s, rest)
    | '[' :: rest =>
      match namedClass? rest with
      | some (s, after) => bracketItems? f negated fuel pending (union.union s) after
      | none =>
        let (innerNegated, innerUnion, body) := openBrackets f rest
        match bracketItems? f innerNegated fuel none innerUnion body with
        | some (s, after) => bracketItems? f negated fuel pending (union.union s) after
        | none => none
    | '&' :: '&' :: rest => operation .intersection rest
    | '-' :: '-' :: rest => operation .difference rest
    | '~' :: '~' :: rest => operation .symmetricDifference rest
    | cs' =>
      match bracketRange? f cs' with
      | some (s, after) => bracketItems? f negated fuel pending (union.union s) after
      | none => none

/-- Reads brackets, after the opening one. -/
def brackets? (f : PatternFlags) (fuel : Nat) (cs : List Char) : Option (PatternItem × List Char) :=
  let (negated, union, body) := openBrackets f cs
  (bracketItems? f negated fuel none union body).map fun (s, rest) =>
    (⟨.char s, 1, if s.isBasic && !s 0x3B1 && !s 0x4E00 then 1 else wideWeight, true⟩, rest)

/-! ### Repetition -/

/-- The item repeated. -/
def repeated? (item : PatternItem) (least : Nat) (most : Option Nat) : Option PatternItem :=
  let copies := match most with
    | some n => max n 1
    | none => max least 1
  let weight := item.weight * copies
  if item.repeatable ∧ item.height < heightLimit ∧ weight ≤ weightLimit then
    some ⟨.repeat item.regex least most, item.height + 1, weight, true⟩
  else none

/-- The pattern after the mark that makes a repetition reluctant, which has no bearing on whether
there is a match. -/
def skipReluctant : List Char → List Char
  | '?' :: cs => cs
  | cs => cs

/-- Reads a 32-bit decimal count, with blanks around it. -/
def count? (cs : List Char) : Option (Nat × List Char) :=
  let body := Text.trimStart cs
  match Text.ofDigits? 10 (body.takeWhile Char.isDigit) with
  | some n =>
    if n < UInt32.size then some (n, Text.trimStart (body.dropWhile Char.isDigit)) else none
  | none => none

/-- Reads the bounds of a counted repetition, after the opening brace. -/
def bounds? (f : PatternFlags) (cs : List Char) : Option (Nat × Option Nat × List Char) := do
  let (least, rest) ← count? (skip f cs)
  match rest with
  | '\x7d' :: after => some (least, some least, after)
  | ',' :: rest' =>
    match skip f rest' with
    | '\x7d' :: after => some (least, none, after)
    | rest'' =>
      let (most, after) ← count? rest''
      match after with
      | '\x7d' :: after' => if least ≤ most then some (least, some most, after') else none
      | _ => none
  | _ => none

/-! ### Groups -/

/-- Characters of group names. -/
def isGroupNameChar (first : Bool) (c : Char) : Bool :=
  c == '_' || CodeSet.ofCategories ["L", "Nl"] c.toNat
    || (!first && (c == '.' || c == '[' || c == ']' || CodeSet.ofCategories ["N"] c.toNat))

/-- Reads a group name and the bracket that closes it. -/
def groupName? (cs : List Char) : Option (String × List Char) :=
  match cs.takeWhile (· != '>'), cs.dropWhile (· != '>') with
  | c :: name, _ :: after =>
    if isGroupNameChar true c && name.all (isGroupNameChar false) then
      some (String.ofList (c :: name), after)
    else none
  | _, _ => none

/-- Sets or clears the flag of a letter. -/
def setFlag? (f : PatternFlags) (letter : Char) (on : Bool) : Option PatternFlags :=
  match letter with
  | 'i' => some { f with ignoreCase := on }
  | 'm' => some { f with multiLine := on }
  | 's' => some { f with dotAll := on }
  | 'U' => some f
  | 'u' => some { f with overBytes := !on }
  | 'R' => some { f with crlf := on }
  | 'x' => some { f with ignoreSpace := on }
  | _ => none

/-- Sets flags from their letters; each may occur once, as may the hyphen, after which flags are
cleared and which a letter has to follow. -/
def setFlags? (f : PatternFlags) (on : Bool) (seen : List Char) : List Char → Option PatternFlags
  | [] => some f
  | '-' :: cs => if on ∧ cs ≠ [] then setFlags? f false seen cs else none
  | c :: cs =>
    if seen.contains c then none
    else do
      let f' ← setFlag? f c on
      setFlags? f' on (c :: seen) cs

/-- How a group begins. -/
inductive GroupStart where
  /-- A group with the given flags, and the names of groups up to it. -/
  | group (flags : PatternFlags) (names : List String) (body : List Char)
  /-- Flags for the rest of the enclosing group. -/
  | directive (flags : PatternFlags) (rest : List Char)

/-- Reads the beginning of a group, after the opening parenthesis. -/
def groupStart? (f : PatternFlags) (names : List String) (cs : List Char) : Option GroupStart :=
  let named (cs : List Char) : Option GroupStart := do
    let (name, body) ← groupName? cs
    if names.contains name then none else some (.group f (name :: names) body)
  match skip f cs with
  | '?' :: '=' :: _ => none
  | '?' :: '!' :: _ => none
  | '?' :: '<' :: '=' :: _ => none
  | '?' :: '<' :: '!' :: _ => none
  | '?' :: 'P' :: '<' :: rest => named rest
  | '?' :: '<' :: rest => named rest
  | '?' :: rest =>
    let letters := rest.takeWhile fun c => c != ':' && c != ')'
    match rest.dropWhile fun c => c != ':' && c != ')' with
    | ':' :: body => (setFlags? f true [] letters).map fun f' => .group f' names body
    | ')' :: after =>
      if letters.isEmpty then none else (setFlags? f true [] letters).map fun f' => .directive f' after
    | _ => none
  | rest => some (.group f names rest)

/-- Items one after the other; they come last one first. -/
def sequence : List PatternItem → PatternItem
  | [] => ⟨.empty, 0, 1, true⟩
  | [item] => item
  | items =>
    items.foldl (fun later item =>
        ⟨.seq item.regex later.regex, max (item.height + 1) later.height, item.weight + later.weight,
          true⟩)
      ⟨.empty, 0, 0, true⟩

/-- Alternative items; they come last one first. -/
def alternatives : List PatternItem → PatternItem
  | [] => ⟨.empty, 0, 1, true⟩
  | [item] => item
  | item :: items =>
    items.foldl (fun later item =>
        ⟨.alt item.regex later.regex, max (item.height + 1) later.height, item.weight + later.weight,
          true⟩)
      { item with height := item.height + 1 }

/-- The item of a class that depends on flags: any character, or any but line ends. -/
def dotItem? (f : PatternFlags) : Option PatternItem :=
  if f.overBytes then none
  else
    let lineEnds : CodeSet := fun n => n == 10 || (f.crlf && n == 13)
    some (setItem (if f.dotAll then fun _ => true else lineEnds.complement) wideWeight)

/-- The item of a condition. -/
def anchorItem (a : Anchor) : PatternItem := ⟨.anchor a, 0, 1, true⟩

/-- Reads the items of a group, or of the whole pattern at depth zero: `done` are the alternatives
before the current one, and `items` the items of the current one, last one first. The answer is the
group, the names of groups up to its end, and what follows it. -/
def items? : (fuel depth : Nat) → PatternFlags → (names : List String) →
    (done items : List PatternItem) → List Char →
    Option (PatternItem × List String × List Char)
  | 0, _, _, _, _, _, _ => none
  | fuel + 1, depth, f, names, done, items, cs =>
    let finish := alternatives (sequence items :: done)
    let push (item : PatternItem) (rest : List Char) :=
      items? fuel depth f names done (item :: items) rest
    let repeatLast (least : Nat) (most : Option Nat) (rest : List Char) :=
      match items with
      | [] => none
      | item :: earlier =>
        match repeated? item least most with
        | some item' => items? fuel depth f names done (item' :: earlier) (skipReluctant rest)
        | none => none
    match skip f cs with
    | [] => if depth = 0 then some (finish, names, []) else none
    | '|' :: rest => items? fuel depth f names (sequence items :: done) [] rest
    | ')' :: rest => if depth = 0 then none else some (finish, names, rest)
    | '(' :: rest =>
      match groupStart? f names rest with
      | none => none
      | some (.directive f' after) =>
        items? fuel depth f' names done (⟨.empty, 0, 1, false⟩ :: items) after
      | some (.group f' names' body) =>
        match items? fuel (depth + 1) f' names' [] [] body with
        | none => none
        | some (item, names'', after) =>
          if item.height < heightLimit then
            items? fuel depth f names'' done
              ({ item with height := item.height + 1, repeatable := true } :: items) after
          else none
    | '*' :: rest => repeatLast 0 none rest
    | '+' :: rest => repeatLast 1 none rest
    | '?' :: rest => repeatLast 0 (some 1) rest
    | '\x7b' :: rest =>
      match bounds? f rest with
      | some (least, most, after) => repeatLast least most (skip f after)
      | none => none
    | '[' :: rest =>
      match brackets? f fuel rest with
      | some (item, after) => push item after
      | none => none
    | '\\' :: rest =>
      match escape? f rest with
      | none => none
      | some (e, after) =>
        match escapedItem? f e with
        | some item => push item after
        | none => none
    | '.' :: rest =>
      match dotItem? f with
      | some item => push item rest
      | none => none
    | '^' :: rest => push (anchorItem (if f.multiLine then .lineStart f.crlf else .textStart)) rest
    | '$' :: rest => push (anchorItem (if f.multiLine then .lineEnd f.crlf else .textEnd)) rest
    | c :: rest => push (charItem f c.toNat) rest

end Pattern

namespace Regex

/-- The expression that a pattern denotes, if it is one. -/
def ofPattern? (pattern : String) : Option Regex :=
  let cs := pattern.toList
  match Pattern.items? (cs.length + 1) 0 {} [] [] [] cs with
  | some (item, _, _) =>
    if item.height ≤ Pattern.heightLimit ∧ item.weight ≤ Pattern.weightLimit then some item.regex
    else none
  | none => none

/-- A character as a pattern for exactly that character. -/
def quoted (c : Char) : List Char := if Pattern.isMeta c then ['\\', c] else [c]

/-- A text as a pattern for exactly that text. -/
def escape (text : String) : String := String.ofList (text.toList.flatMap quoted)

/-- The pattern that a text as a whole has to be the given one. -/
def exactly (text : String) : String := "^" ++ escape text ++ "$"

end Regex

end Crosscheck
