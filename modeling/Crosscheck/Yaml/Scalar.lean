import Crosscheck.Text.Numeral
import Crosscheck.Yaml.Cursor

/-!
# Crosscheck.Yaml.Scalar

**The texts of YAML: plain, quoted and block scalars.** A plain or quoted text may go on over several
lines, which are folded: one line end is a blank, and of several the first is dropped. A block keeps
its lines, or folds those that do not start with a blank. Every reader starts after the character
that announces the text, and ends after the last one that belongs to it.
-/

namespace Crosscheck.Yaml

/-- How a text was written. -/
inductive ScalarStyle where
  /-- Without quotes. -/
  | plain
  /-- In quotes of either kind. -/
  | quoted
  /-- A block that keeps its lines. -/
  | literal
  /-- A block that folds its lines. -/
  | folded
  deriving DecidableEq, Repr

/-- Blanks and line ends between two words of a text. -/
structure Gap where
  /-- The blanks before the first line end. -/
  blanks : List Char
  /-- Whether there is a line end. -/
  broken : Bool
  /-- The first line end, unless it was escaped. -/
  first : List Char
  /-- The other line ends. -/
  more : List Char
  deriving DecidableEq, Repr

namespace Gap

/-- No gap. -/
def empty : Gap := ⟨[], false, [], []⟩

/-- The gap that an escaped line end starts. -/
def escaped : Gap := ⟨[], true, [], []⟩

/-- The gap with one more line end. -/
def addBreak (g : Gap) (text : List Char) : Gap :=
  if g.broken then { g with more := g.more ++ text }
  else { g with broken := true, first := text }

/-- What the gap reads as. -/
def text (g : Gap) : List Char :=
  if !g.broken then g.blanks
  else if g.first = ['\n'] then (if g.more.isEmpty then [' '] else g.more)
  else g.first ++ g.more

/-- Reads a gap. Lines after the first may not have a tab left of column `indent`. -/
def read? (indent : Nat) : (fuel : Nat) → Gap → Cursor → Option (Gap × Cursor)
  | 0, _, _ => none
  | fuel + 1, g, c =>
    match c.rest with
    | [] => some (g, c)
    | b :: _ =>
      if isBreak b then read? indent fuel (g.addBreak c.breakText) c.skipBreak
      else if isSpace b then
        if g.broken then
          if b == '\t' && decide (c.column < indent) then none
          else read? indent fuel g (c.skip 1)
        else read? indent fuel { g with blanks := g.blanks ++ [b] } (c.skip 1)
      else some (g, c)

end Gap

/-! ### Plain texts -/

/-- The characters that end a plain text between brackets or braces. -/
def isFlowIndicator (c : Char) : Bool :=
  c == ',' || c == '[' || c == ']' || c == '\x7b' || c == '\x7d'

/-- Reads a word of a plain text. Between brackets or braces a colon may not stand right before one
of their indicators. -/
def plainWord? (flow : Bool) : List Char → Option (List Char)
  | [] => some []
  | c :: rest =>
    if isSpace c || isBreak c then some []
    else if flow && c == ':' && rest.head?.any (fun d => isFlowIndicator d || d == '?') then none
    else if c == ':' && startsBlank rest then some []
    else if flow && isFlowIndicator c then some []
    else (plainWord? flow rest).map (c :: ·)

/-- A text that was read, the place after it, and whether line ends were passed behind it. -/
structure PlainText where
  /-- The text. -/
  text : List Char
  /-- The place after it and the gap behind it. -/
  after : Cursor
  /-- Whether there is a line end in the gap behind it. -/
  broken : Bool

/-- Reads a plain text from a word on. Outside brackets and braces it ends where a line starts left
of column `indent`. -/
def plain? (flow : Bool) (indent : Nat) :
    (fuel : Nat) → Gap → List Char → Cursor → Option PlainText
  | 0, _, _, _ => none
  | fuel + 1, gap, text, c =>
    if c.atDocumentMark || c.peek? == some '#' then some ⟨text, c, gap.broken⟩
    else do
      let word ← plainWord? flow c.rest
      let c := c.skip word.length
      let (text, gap) := if word.isEmpty then (text, gap) else (text ++ gap.text ++ word, .empty)
      if c.rest.isEmpty || !startsBlank c.rest then some ⟨text, c, gap.broken⟩
      else do
        let (gap, c) ← Gap.read? indent (c.rest.length + 1) .empty c
        if !flow && decide (c.column < indent) then some ⟨text, c, gap.broken⟩
        else plain? flow indent fuel gap text c

/-! ### Quoted texts -/

/-- The number that exactly `digits` hexadecimal digits at the front denote. -/
def hexCode? (digits : Nat) (cs : List Char) : Option Nat :=
  if digits ≤ cs.length then Text.ofDigits? 16 (cs.take digits) else none

/-- The character of a code given by `digits` hexadecimal digits, and their number. -/
def codeEscape? (digits : Nat) (cs : List Char) : Option (Char × Nat) := do
  let code ← hexCode? digits cs
  if code.isValidChar then some (Char.ofNat code, digits + 1) else none

/-- The character that follows a backslash stands for, and how many characters say so. -/
def escape? : List Char → Option (Char × Nat)
  | '0' :: _ => some ('\x00', 1)
  | 'a' :: _ => some ('\x07', 1)
  | 'b' :: _ => some ('\x08', 1)
  | 't' :: _ => some ('\t', 1)
  | '\t' :: _ => some ('\t', 1)
  | 'n' :: _ => some ('\n', 1)
  | 'v' :: _ => some ('\x0b', 1)
  | 'f' :: _ => some ('\x0c', 1)
  | 'r' :: _ => some ('\r', 1)
  | 'e' :: _ => some ('\x1b', 1)
  | ' ' :: _ => some (' ', 1)
  | '"' :: _ => some ('"', 1)
  | '/' :: _ => some ('/', 1)
  | '\\' :: _ => some ('\\', 1)
  | 'N' :: _ => some ('\u0085', 1)
  | '_' :: _ => some ('\u00a0', 1)
  | 'L' :: _ => some ('\u2028', 1)
  | 'P' :: _ => some ('\u2029', 1)
  | 'x' :: cs => codeEscape? 2 cs
  | 'u' :: cs => codeEscape? 4 cs
  | 'U' :: cs => codeEscape? 8 cs
  | _ => none

/-- Reads a quoted text; `text` is what was read of it. Two single quotes in a row stand for one
between single quotes, and backslashes escape between double quotes. No document may start or end
inside. -/
def quoted? (quote : Char) : (fuel : Nat) → (text : List Char) → Cursor →
    Option (List Char × Cursor)
  | 0, _, _ => none
  | fuel + 1, text, c =>
    if c.atDocumentMark then none
    else match c.rest with
    | [] => none
    | d :: rest =>
      if d == quote then
        if quote == '\'' && rest.head? == some '\'' then
          quoted? quote fuel (text ++ ['\'']) (c.skip 2)
        else some (text, c.skip 1)
      else if quote == '"' && d == '\\' then
        if rest.head?.any isBreak then do
          let (gap, c) ← Gap.read? 0 (c.rest.length + 1) .escaped (c.skip 1).skipBreak
          quoted? quote fuel (text ++ gap.text) c
        else do
          let (e, taken) ← escape? rest
          quoted? quote fuel (text ++ [e]) (c.skip (taken + 1))
      else if isSpace d || isBreak d then do
        let (gap, c) ← Gap.read? 0 (c.rest.length + 1) .empty c
        quoted? quote fuel (text ++ gap.text) c
      else quoted? quote fuel (text ++ [d]) (c.skip 1)

/-! ### Block texts -/

/-- What becomes of the line ends at the end of a block. -/
inductive Chomping where
  /-- All are dropped. -/
  | strip
  /-- One is kept. -/
  | clip
  /-- All are kept. -/
  | keep
  deriving DecidableEq, Repr

/-- The chomping that a character asks for. -/
def chomping? : Char → Option Chomping
  | '-' => some .strip
  | '+' => some .keep
  | _ => none

/-- The indentation that a digit asks for. -/
def increment? (c : Char) : Option Nat :=
  if c.isDigit && c != '0' then some (c.toNat - '0'.toNat) else none

/-- Reads what a block says about itself: chomping and indentation in either order. -/
def blockHeader? (c : Cursor) : Option (Chomping × Option Nat × Cursor) :=
  match c.rest with
  | d :: rest =>
    match chomping? d with
    | some chomping =>
      match rest with
      | e :: _ =>
        if e.isDigit then (increment? e).map fun n => (chomping, some n, c.skip 2)
        else some (chomping, none, c.skip 1)
      | [] => some (chomping, none, c.skip 1)
    | none =>
      if d.isDigit then do
        let n ← increment? d
        match rest.head?.bind chomping? with
        | some chomping => some (chomping, some n, c.skip 2)
        | none => some (.clip, some n, c.skip 1)
      else some (.clip, none, c)
  | [] => some (.clip, none, c)

/-- Passes over empty lines up to the text of a line, at most to column `indent` if that is known.
The result is what the line ends read as, the widest column reached, and the place. No tab may stand
in the indentation. -/
def blockBreaks? (indent : Option Nat) : (fuel : Nat) → (widest : Nat) → Cursor →
    Option (List Char × Nat × Cursor)
  | 0, _, _ => none
  | fuel + 1, widest, c =>
    let blanks := (c.rest.takeWhile (· == ' ')).length
    let c := c.skip (match indent with
      | some n => min blanks (n - c.column)
      | none => blanks)
    let widest := max widest c.column
    let inIndentation := match indent with
      | some n => decide (c.column < n)
      | none => true
    match c.rest with
    | [] => some ([], widest, c)
    | b :: _ =>
      if b == '\t' && inIndentation then none
      else if isBreak b then do
        let (breaks, widest, after) ← blockBreaks? indent fuel widest c.skipBreak
        some (c.breakText ++ breaks, widest, after)
      else some ([], widest, c)

/-- The lines of a block so far. -/
structure BlockText where
  /-- The text up to the last line. -/
  text : List Char
  /-- The end of the last line. -/
  lastBreak : List Char
  /-- The ends of the empty lines after it. -/
  breaks : List Char
  /-- Whether the last line starts with a blank. -/
  indented : Bool

/-- Reads the lines of a block that are indented to column `indent`. -/
def blockLines? (fold : Bool) (indent : Nat) : (fuel : Nat) → BlockText → Cursor →
    Option (BlockText × Cursor)
  | 0, _, _ => none
  | fuel + 1, b, c =>
    match c.rest with
    | [] => some (b, c)
    | d :: _ =>
      if c.column ≠ indent then some (b, c)
      else do
        let joint :=
          if fold && b.lastBreak.head? == some '\n' && !b.indented && !isSpace d then
            if b.breaks.isEmpty then [' '] else []
          else b.lastBreak
        let (line, c) := c.span (!isBreak ·)
        let lastBreak := c.breakText
        let (breaks, _, c) ← blockBreaks? (some indent) (c.rest.length + 2) 0 c.skipBreak
        blockLines? fold indent fuel
          ⟨b.text ++ joint ++ b.breaks ++ line, lastBreak, breaks, isSpace d⟩ c

/-- Reads a block inside structures that are indented to column `parent`, if there are any. -/
def block? (fold : Bool) (parent : Option Nat) (c : Cursor) : Option (List Char × Cursor) := do
  let (chomping, increment, c) ← blockHeader? c
  let c ← c.skipLineRest?
  let fuel := c.rest.length + 2
  let (breaks, widest, c) ← blockBreaks? (increment.map (parent.getD 0 + ·)) fuel 0 c
  let indent := match increment with
    | some n => parent.getD 0 + n
    | none => max (max widest ((parent.map (· + 1)).getD 0)) 1
  let (b, c) ← blockLines? fold indent fuel ⟨[], [], breaks, false⟩ c
  let kept := match chomping with
    | .strip => []
    | .clip => b.lastBreak
    | .keep => b.lastBreak ++ b.breaks
  some (b.text ++ kept, c)

end Crosscheck.Yaml
