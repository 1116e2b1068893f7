/-!
# Crosscheck.Shell.Token

**The words of a shell script.** A word is made of characters and parameters, either of which may be
quoted; what is quoted is neither an operator nor split later on. Operators stand between words.
-/

namespace Crosscheck.Shell

/-- A part of a word. -/
inductive Piece where
  /-- Characters. -/
  | text (quoted : Bool) (cs : List Char)
  /-- The value of a parameter. -/
  | parameter (quoted : Bool) (name : String)
  deriving DecidableEq, Repr

/-- A word, before parameters are replaced. -/
abbrev Word := List Piece

/-- How a redirection treats its stream. -/
inductive Redirection where
  /-- The stream reads from a file. -/
  | source
  /-- The stream writes to a file. -/
  | target
  /-- The stream is the same as another one. -/
  | duplicate
  deriving DecidableEq, Repr

/-- A word or operator of a script. -/
inductive Token where
  /-- A word. -/
  | word (pieces : Word)
  /-- The redirection of a stream; a word follows. -/
  | redirect (stream : Nat) (kind : Redirection)
  /-- The end of a command. -/
  | stop
  /-- What follows runs if the command succeeded. -/
  | both
  /-- What follows runs if the command failed. -/
  | either
  /-- What follows reads what the command writes. -/
  | pipe
  /-- An opening parenthesis. -/
  | openParen
  /-- A closing parenthesis. -/
  | closeParen
  deriving DecidableEq, Repr

namespace Token

/-- The characters that end a word. -/
def isMeta (c : Char) : Bool := " \t\n;&|<>()".toList.contains c

/-- Whether a character can be part of a variable's name. -/
def isNameChar (c : Char) : Bool := c.isAlphanum || c == '_'

/-- Reads a parameter after its dollar sign. -/
def parameter? : List Char → Option (String × List Char)
  | '\x7b' :: cs =>
    match cs.dropWhile isNameChar with
    | '\x7d' :: rest => some (String.ofList (cs.takeWhile isNameChar), rest)
    | _ => none
  | c :: cs =>
    if "$?#@*!-".toList.contains c || c.isDigit then some (String.singleton c, cs)
    else if isNameChar c then
      some (String.ofList (c :: cs.takeWhile isNameChar), cs.dropWhile isNameChar)
    else none
  | [] => none

/-- Reads what stands between double quotes, and what follows. -/
def doubleQuoted? : (fuel : Nat) → List Char → Option (Word × List Char)
  | 0, _ => none
  | fuel + 1, cs =>
    match cs with
    | [] => none
    | '"' :: rest => some ([.text true []], rest)
    | '\\' :: c :: rest => do
      let (pieces, after) ← doubleQuoted? fuel rest
      if c == '\n' then some (pieces, after)
      else if "$`\"\\".toList.contains c then some (.text true [c] :: pieces, after)
      else some (.text true ['\\', c] :: pieces, after)
    | '$' :: rest =>
      match parameter? rest with
      | some (name, rest) => do
        let (pieces, after) ← doubleQuoted? fuel rest
        some (.parameter true name :: pieces, after)
      | none => do
        let (pieces, after) ← doubleQuoted? fuel rest
        some (.text true ['$'] :: pieces, after)
    | c :: rest => do
      let (pieces, after) ← doubleQuoted? fuel rest
      some (.text true [c] :: pieces, after)

/-- Reads a word, and what follows; `none` if a quote is not closed. -/
def word? : (fuel : Nat) → List Char → Option (Word × List Char)
  | 0, _ => none
  | fuel + 1, cs =>
    match cs with
    | [] => some ([], [])
    | '\'' :: rest =>
      match rest.dropWhile (· != '\'') with
      | _ :: after => do
        let (pieces, after) ← word? fuel after
        some (.text true (rest.takeWhile (· != '\'')) :: pieces, after)
      | [] => none
    | '"' :: rest => do
      let (quoted, after) ← doubleQuoted? (rest.length + 1) rest
      let (pieces, after) ← word? fuel after
      some (quoted ++ pieces, after)
    | '\\' :: '\n' :: rest => word? fuel rest
    | '\\' :: c :: rest => do
      let (pieces, after) ← word? fuel rest
      some (.text true [c] :: pieces, after)
    | c :: rest =>
      if isMeta c then some ([], cs)
      else
        match if c == '$' then parameter? rest else none with
        | some (name, rest) => do
          let (pieces, after) ← word? fuel rest
          some (.parameter false name :: pieces, after)
        | none => do
          let (pieces, after) ← word? fuel rest
          some (.text false [c] :: pieces, after)

/-- Reads a redirection of a stream, by default the one the operator is made for. -/
def redirect? (stream : Option Nat) : List Char → Option (Token × List Char)
  | '<' :: '&' :: rest => some (.redirect (stream.getD 0) .duplicate, rest)
  | '<' :: rest => some (.redirect (stream.getD 0) .source, rest)
  | '>' :: '&' :: rest => some (.redirect (stream.getD 1) .duplicate, rest)
  | '>' :: '>' :: rest => some (.redirect (stream.getD 1) .target, rest)
  | '>' :: rest => some (.redirect (stream.getD 1) .target, rest)
  | _ => none

/-- Reads the token at the front. -/
def next? (cs : List Char) : Option (Token × List Char) :=
  match cs with
  | '\n' :: rest | ';' :: rest => some (.stop, rest)
  | '&' :: '&' :: rest => some (.both, rest)
  | '&' :: rest => some (.stop, rest)
  | '|' :: '|' :: rest => some (.either, rest)
  | '|' :: rest => some (.pipe, rest)
  | '(' :: rest => some (.openParen, rest)
  | ')' :: rest => some (.closeParen, rest)
  | c :: rest =>
    match redirect? none cs with
    | some found => some found
    | none =>
      match if c.isDigit then redirect? (some (c.toNat - '0'.toNat)) rest else none with
      | some found => some found
      | none => (word? (cs.length + 1) cs).map fun (pieces, after) => (.word pieces, after)
  | [] => none

/-- The tokens of a script. Every token takes a character. -/
def scan? : (fuel : Nat) → List Char → Option (List Token)
  | 0, _ => none
  | fuel + 1, cs =>
    let cs := cs.dropWhile fun c => c == ' ' || c == '\t'
    let cs := if cs.head? == some '#' then cs.dropWhile (· != '\n') else cs
    if cs.isEmpty then some []
    else do
      let (token, rest) ← next? cs
      let tokens ← scan? fuel rest
      some (token :: tokens)

/-- The tokens of a script; `none` if a quote is not closed. -/
def ofScript? (script : String) : Option (List Token) :=
  scan? (script.length + 1) script.toList

end Token

end Crosscheck.Shell
