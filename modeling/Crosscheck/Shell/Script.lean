import Crosscheck.Shell.Token

/-!
# Crosscheck.Shell.Script

**Scripts as trees.** Commands run one after the other, or depending on the success of the one before,
or reading what the one before writes. Some words are structure where a command could start, and
only there.
-/

namespace Crosscheck.Shell

/-- The redirection of a stream of a command. -/
structure Redirect where
  /-- The number of the stream. -/
  stream : Nat
  /-- What the redirection does. -/
  kind : Redirection
  /-- The file, or the number of the other stream. -/
  operand : Word
  deriving DecidableEq, Repr

/-- A script. -/
inductive Script where
  /-- Nothing. -/
  | empty
  /-- A command. -/
  | command (words : List Word) (redirects : List Redirect)
  /-- A script with its streams redirected; changes inside a subshell stay there. -/
  | group (subshell : Bool) (body : Script) (redirects : List Redirect)
  /-- One after the other. -/
  | sequence (first second : Script)
  /-- The second one if the first succeeds. -/
  | both (first second : Script)
  /-- The second one if the first fails. -/
  | either (first second : Script)
  /-- The second one reads what the first one writes. -/
  | pipe (first second : Script)
  /-- Fails if the script succeeds. -/
  | negated (body : Script)
  /-- Depends on the success of the first one. -/
  | branch (condition yes no : Script)
  deriving Repr

namespace Script

/-- The characters of a piece, if they are not quoted. -/
def bareText? : Piece → Option (List Char)
  | .text false cs => some cs
  | _ => none

/-- The word of a token, if nothing in it is quoted. -/
def reserved? : Token → Option String
  | .word pieces => (pieces.mapM bareText?).map fun parts => String.ofList parts.flatten
  | _ => none

/-- Whether the tokens start with a given structural word. -/
def startsWith (word : String) : List Token → Bool
  | token :: _ => reserved? token == some word
  | [] => false

/-- The tokens after the ends of commands. -/
def skipStops (tokens : List Token) : List Token := tokens.dropWhile (· == .stop)

/-- Reads redirections, as many as there are. -/
def redirects : List Token → List Redirect × List Token
  | .redirect stream kind :: .word operand :: rest =>
    let (more, rest) := redirects rest
    (⟨stream, kind, operand⟩ :: more, rest)
  | tokens => ([], tokens)

/-- Reads the words and redirections of a command. -/
def simple : List Token → (List Word × List Redirect) × List Token
  | .word pieces :: rest =>
    let ((words, rs), rest) := simple rest
    ((pieces :: words, rs), rest)
  | .redirect stream kind :: .word operand :: rest =>
    let ((words, rs), rest) := simple rest
    ((words, ⟨stream, kind, operand⟩ :: rs), rest)
  | tokens => (([], []), tokens)

mutual

/-- Reads commands up to a token that cannot start one. -/
def list? : (fuel : Nat) → List Token → Option (Script × List Token)
  | 0, _ => none
  | fuel + 1, tokens =>
    let tokens := skipStops tokens
    if tokens.isEmpty || tokens.head? == some .closeParen
        || ["\x7d", "then", "else", "elif", "fi"].any (startsWith · tokens) then
      some (.empty, tokens)
    else do
      let (first, rest) ← chain? fuel tokens
      match rest with
      | .stop :: rest => do
        let (second, rest) ← list? fuel rest
        some (.sequence first second, rest)
      | _ => some (first, rest)

/-- Reads commands that depend on each other. -/
def chain? : (fuel : Nat) → List Token → Option (Script × List Token)
  | 0, _ => none
  | fuel + 1, tokens => do
    let (first, rest) ← pipeline? fuel tokens
    links? fuel first rest

/-- Reads what depends on the success of a script. -/
def links? : (fuel : Nat) → Script → List Token → Option (Script × List Token)
  | 0, _, _ => none
  | fuel + 1, first, tokens =>
    match tokens with
    | .both :: rest => do
      let (second, rest) ← pipeline? fuel (skipStops rest)
      links? fuel (.both first second) rest
    | .either :: rest => do
      let (second, rest) ← pipeline? fuel (skipStops rest)
      links? fuel (.either first second) rest
    | _ => some (first, tokens)

/-- Reads commands of which each reads what the one before writes. -/
def pipeline? : (fuel : Nat) → List Token → Option (Script × List Token)
  | 0, _ => none
  | fuel + 1, tokens =>
    if startsWith "!" tokens then do
      let (body, rest) ← pipeline? fuel (tokens.drop 1)
      some (.negated body, rest)
    else do
      let (first, rest) ← single? fuel tokens
      match rest with
      | .pipe :: rest => do
        let (second, rest) ← pipeline? fuel (skipStops rest)
        some (.pipe first second, rest)
      | _ => some (first, rest)

/-- Reads one command, which may be a structure. -/
def single? : (fuel : Nat) → List Token → Option (Script × List Token)
  | 0, _ => none
  | fuel + 1, tokens =>
    if tokens.head? == some .openParen then do
      let (body, rest) ← list? fuel (tokens.drop 1)
      match rest with
      | .closeParen :: rest =>
        let (rs, rest) := redirects rest
        some (.group true body rs, rest)
      | _ => none
    else if startsWith "\x7b" tokens then do
      let (body, rest) ← list? fuel (tokens.drop 1)
      if startsWith "\x7d" rest then
        let (rs, rest) := redirects (rest.drop 1)
        some (.group false body rs, rest)
      else none
    else if startsWith "if" tokens then branch? fuel (tokens.drop 1)
    else
      match simple tokens with
      | (([], []), _) => none
      | ((words, rs), rest) => some (.command words rs, rest)

/-- Reads a branch after its first word. -/
def branch? : (fuel : Nat) → List Token → Option (Script × List Token)
  | 0, _ => none
  | fuel + 1, tokens => do
    let (condition, rest) ← list? fuel tokens
    if startsWith "then" rest then
      let (yes, rest) ← list? fuel (rest.drop 1)
      if startsWith "elif" rest then
        let (no, rest) ← branch? fuel (rest.drop 1)
        some (.branch condition yes no, rest)
      else if startsWith "else" rest then
        let (no, rest) ← list? fuel (rest.drop 1)
        if startsWith "fi" rest then some (.branch condition yes no, rest.drop 1) else none
      else if startsWith "fi" rest then some (.branch condition yes .empty, rest.drop 1)
      else none
    else none

end

/-- The script of a text. -/
def ofText? (text : String) : Option Script := do
  let tokens ← Token.ofScript? text
  match list? (6 * tokens.length + 6) tokens with
  | some (script, []) => some script
  | _ => none

end Script

end Crosscheck.Shell
