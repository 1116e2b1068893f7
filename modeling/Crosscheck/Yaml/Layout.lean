import Crosscheck.Yaml.Token

/-!
# Crosscheck.Yaml.Layout

**From layout to tokens.** A structure without brackets starts where a dash, a question mark or a key
stands to the right of the structures around it, and ends where a line starts to the left of it. That
a text was a key shows only at the colon behind it; so the place before every text that may be a key
is remembered, and the tokens of a key are put there afterwards. A key is on one line and at most 1024
characters long.
-/

namespace Crosscheck.Yaml

/-- A place before which a key may start. -/
structure KeyPlace where
  /-- How many tokens precede. -/
  tokens : Nat
  /-- Where it is in the text. -/
  cursor : Cursor
  /-- Whether only a key can stand there. -/
  required : Bool

/-- What is known between two tokens. -/
structure Layout where
  /-- What is left of the text. -/
  cursor : Cursor
  /-- The tokens so far, last one first. -/
  tokens : List Token
  /-- The columns of the open structures without brackets, innermost first. -/
  columns : List Nat
  /-- The place where a key may start, if there is one. -/
  key : Option KeyPlace
  /-- The places where keys may start before each of the open brackets, innermost first. -/
  outerKeys : List (Option KeyPlace)
  /-- Whether a key may start at the next token. -/
  keyAllowed : Bool

namespace Layout

/-- Before the first token. -/
def start (cs : List Char) : Layout := ⟨.ofText cs, [], [], none, [], true⟩

/-- Whether a bracket is open. -/
def inFlow (l : Layout) : Bool := !l.outerKeys.isEmpty

/-- The column of the innermost structure without brackets. -/
def indent? (l : Layout) : Option Nat := l.columns.head?

/-- Adds a token. -/
def push (l : Layout) (t : Token) : Layout := { l with tokens := t :: l.tokens }

/-- Adds a token before those after the first `n`. -/
def insert (l : Layout) (n : Nat) (t : Token) : Layout :=
  let later := l.tokens.length - n
  { l with tokens := l.tokens.take later ++ t :: l.tokens.drop later }

/-- Moves on. -/
def moveTo (l : Layout) (c : Cursor) : Layout := { l with cursor := c }

/-- Passes over blanks, comments and line ends. Tabs may not stand where a key may start. After a
line end a key may start, unless a bracket is open. -/
def skipBlank : (fuel : Nat) → Layout → Layout
  | 0, l => l
  | fuel + 1, l =>
    let c := l.cursor.skipWhile fun b =>
      b == ' ' || (b == '\t' && (l.inFlow || !l.keyAllowed))
    let c := if c.peek? = some '#' then c.skipWhile (!isBreak ·) else c
    match c.rest with
    | b :: _ =>
      if isBreak b then
        skipBlank fuel
          { l with cursor := c.skipBreak, keyAllowed := l.keyAllowed || !l.inFlow }
      else l.moveTo c
    | [] => l.moveTo c

/-- Whether a place is too far behind for a key. -/
def isStale (l : Layout) (k : KeyPlace) : Bool :=
  decide (k.cursor.line < l.cursor.line) || decide (k.cursor.index + 1024 < l.cursor.index)

/-- A place that is still near enough; one that required a key must not be left behind. -/
def fresh? (l : Layout) : Option KeyPlace → Option (Option KeyPlace)
  | some k => if l.isStale k then (if k.required then none else some none) else some (some k)
  | none => some none

/-- Forgets places that are too far behind. -/
def dropStale? (l : Layout) : Option Layout := do
  let key ← l.fresh? l.key
  let outerKeys ← l.outerKeys.mapM l.fresh?
  some { l with key := key, outerKeys := outerKeys }

/-- Forgets the place where a key may start; none may be required there. -/
def dropKey? (l : Layout) : Option Layout :=
  if l.key.any (·.required) then none else some { l with key := none }

/-- Remembers the place before the next token, if a key may start there. -/
def saveKey? (l : Layout) : Option Layout :=
  if l.keyAllowed then do
    let required := !l.inFlow && l.indent? == some l.cursor.column
    let l ← l.dropKey?
    some { l with key := some ⟨l.tokens.length, l.cursor, required⟩ }
  else some l

/-- Starts a structure in a column, after the first `n` tokens, if the column is to the right of the
structures that are open. -/
def indentTo (l : Layout) (column n : Nat) (t : Token) : Layout :=
  if !l.inFlow && l.indent?.all (decide <| · < column) then
    { l.insert n t with columns := column :: l.columns }
  else l

/-- Ends the structures whose columns are to the right of a column; without a column, all. -/
def unindentTo (l : Layout) (column? : Option Nat) : Layout :=
  if l.inFlow then l
  else
    let ended := l.columns.takeWhile fun c => column?.all (decide <| · < c)
    { l with
      tokens := List.replicate ended.length .blockEnd ++ l.tokens
      columns := l.columns.drop ended.length }

/-- Ends all structures before a directive or a document mark. -/
def reset? (l : Layout) : Option Layout := do
  let l ← (l.unindentTo none).dropKey?
  some { l with keyAllowed := false }

/-- Reads a document mark. -/
def documentMark? (l : Layout) (t : Token) : Option Layout := do
  let l ← l.reset?
  some ((l.push t).moveTo (l.cursor.skip 3))

/-- Reads an opening bracket. -/
def flowStart? (l : Layout) (t : Token) : Option Layout := do
  let l ← l.saveKey?
  some { (l.push t).moveTo (l.cursor.skip 1) with
    key := none, outerKeys := l.key :: l.outerKeys, keyAllowed := true }

/-- Reads a closing bracket; one too many changes nothing but is a token all the same. -/
def flowEnd? (l : Layout) (t : Token) : Option Layout := do
  let l ← l.dropKey?
  let l := match l.outerKeys with
    | key :: outer => { l with key := key, outerKeys := outer }
    | [] => l
  some { (l.push t).moveTo (l.cursor.skip 1) with keyAllowed := false }

/-- Reads a comma. -/
def comma? (l : Layout) : Option Layout := do
  let l ← l.dropKey?
  some { (l.push .flowEntry).moveTo (l.cursor.skip 1) with keyAllowed := true }

/-- Starts a structure at the next token where none is open in its column. -/
def openHere? (l : Layout) (t : Token) : Option Layout :=
  if l.inFlow then some l
  else if l.keyAllowed then some (l.indentTo l.cursor.column l.tokens.length t)
  else none

/-- Reads the dash before an item. -/
def dash? (l : Layout) : Option Layout := do
  let l ← (← l.openHere? .blockSequenceStart).dropKey?
  some { (l.push .blockEntry).moveTo (l.cursor.skip 1) with keyAllowed := true }

/-- Reads the question mark before a key. -/
def key? (l : Layout) : Option Layout := do
  let l ← (← l.openHere? .blockMappingStart).dropKey?
  some { (l.push .key).moveTo (l.cursor.skip 1) with keyAllowed := !l.inFlow }

/-- Reads the colon before a value. If a key may have started before, it has. -/
def value? (l : Layout) : Option Layout :=
  match l.key with
  | some k =>
    let l := (l.insert k.tokens .key).indentTo k.cursor.column k.tokens .blockMappingStart
    some { (l.push .value).moveTo (l.cursor.skip 1) with key := none, keyAllowed := false }
  | none => do
    let l ← l.openHere? .blockMappingStart
    some { (l.push .value).moveTo (l.cursor.skip 1) with keyAllowed := !l.inFlow }

/-- Reads a token that may be, or belong to, a key. -/
def node? (l : Layout) (read : Cursor → Option (Token × Cursor)) : Option Layout := do
  let l ← l.saveKey?
  let (t, c) ← read l.cursor
  some { (l.push t).moveTo c with keyAllowed := false }

/-- Reads a quoted text. -/
def quotedToken? (quote : Char) (c : Cursor) : Option (Token × Cursor) := do
  let (text, c) ← quoted? quote (c.rest.length + 1) [] (c.skip 1)
  some (.scalar .quoted (String.ofList text), c)

/-- Reads a block. -/
def blockText? (l : Layout) (fold : Bool) : Option Layout := do
  let l ← l.dropKey?
  let (text, c) ← block? fold l.indent? (l.cursor.skip 1)
  let style := if fold then ScalarStyle.folded else .literal
  some { (l.push (.scalar style (String.ofList text))).moveTo c with keyAllowed := true }

/-- Reads a plain text; after a line end behind it a key may start. -/
def plainText? (l : Layout) : Option Layout := do
  let l ← l.saveKey?
  let p ← plain? l.inFlow ((l.indent?.map (· + 1)).getD 0) (l.cursor.rest.length + 1) .empty []
    l.cursor
  some { (l.push (.scalar .plain (String.ofList p.text))).moveTo p.after with
    keyAllowed := p.broken }

/-- Whether a plain text can start with a character, followed by others. -/
def startsPlain (flow : Bool) (d : Char) (rest : List Char) : Bool :=
  if d == '-' then !rest.head?.any isSpace
  else if d == '?' || d == ':' then !flow && !startsBlank rest
  else !isSpace d && !",[]\x7b\x7d#&*!|>'\"%@`".toList.contains d

/-- Reads the token that starts with a character. -/
def token? (l : Layout) (d : Char) (rest : List Char) : Option Layout :=
  let c := l.cursor
  if c.column == 0 && d == '%' then do
    let l ← l.reset?
    let (t, c) ← Token.directive? (c.skip 1)
    some ((l.push t).moveTo c)
  else if c.startsWithMark '-' then l.documentMark? .documentStart
  else if c.startsWithMark '.' then l.documentMark? .documentEnd
  else if d == '[' then l.flowStart? .flowSequenceStart
  else if d == '\x7b' then l.flowStart? .flowMappingStart
  else if d == ']' then l.flowEnd? .flowSequenceEnd
  else if d == '\x7d' then l.flowEnd? .flowMappingEnd
  else if d == ',' then l.comma?
  else if d == '-' && startsBlank rest then l.dash?
  else if d == '?' && (l.inFlow || startsBlank rest) then l.key?
  else if d == ':' && (l.inFlow || startsBlank rest) then l.value?
  else if d == '*' then l.node? fun c => (Token.name? (c.skip 1)).map fun (n, c) => (.alias n, c)
  else if d == '&' then l.node? fun c => (Token.name? (c.skip 1)).map fun (n, c) => (.anchor n, c)
  else if d == '!' then l.node? (Token.tag? l.inFlow)
  else if d == '|' && !l.inFlow then l.blockText? false
  else if d == '>' && !l.inFlow then l.blockText? true
  else if d == '\'' || d == '"' then l.node? (quotedToken? d)
  else if startsPlain l.inFlow d rest then l.plainText?
  else none

/-- Reads all tokens. Every token takes a character. -/
def scan? : (fuel : Nat) → Layout → Option (List Token)
  | 0, _ => none
  | fuel + 1, l => do
    let l := skipBlank (l.cursor.rest.length + 1) l
    let l ← l.dropStale?
    match l.cursor.rest with
    | [] => do
      let l ← (l.unindentTo none).dropKey?
      some l.tokens.reverse
    | d :: rest => do
      let l ← (l.unindentTo (some l.cursor.column)).token? d rest
      scan? fuel l

end Layout

/-- The tokens of a text. -/
def Token.ofText? (cs : List Char) : Option (List Token) :=
  if cs.all isPermitted then Layout.scan? (cs.length + 1) (.start cs) else none

end Crosscheck.Yaml
