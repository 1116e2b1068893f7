import Crosscheck.Shell.Command
import Crosscheck.Shell.Script

/-!
# Crosscheck.Shell.Process

**Running scripts.** A process runs a script with some parameters over an input, until the script is
over or something ends the process. A command that is not known fails with a message.
-/

namespace Crosscheck.Shell

/-- A process that runs a script. -/
structure Process where
  /-- The name it was started by, and its parameters. -/
  arguments : List String
  /-- The variables that were set, the latest first. -/
  assignments : List (String × String)
  /-- What is left of its input. -/
  input : String
  /-- What it wrote. -/
  output : String
  /-- What it wrote as errors. -/
  errors : String
  /-- The status of the last command. -/
  status : Nat
  /-- How many milliseconds have passed. -/
  millis : Nat
  /-- How it ended, if it has. -/
  ending : Option Ending

/-- Where a stream goes. -/
inductive Destination where
  /-- To the output of the process. -/
  | output
  /-- To the errors of the process. -/
  | errors
  /-- Nowhere. -/
  | nowhere
  deriving DecidableEq, Repr

/-- The streams of a command. -/
structure Streams where
  /-- What it reads, if not the input of the process. -/
  input : Option String
  /-- Where its output goes. -/
  output : Destination
  /-- Where its errors go. -/
  errors : Destination

namespace Process

/-- The value of a parameter. -/
def valueOf (p : Process) (name : String) : String :=
  match name with
  | "$" => ownProcess
  | "?" => toString p.status
  | "#" => toString (p.arguments.length - 1)
  | "@" | "*" => " ".intercalate (p.arguments.drop 1)
  | _ =>
    match Text.ofDigits? 10 name.toList with
    | some n => p.arguments.getD n ""
    | none => ((p.assignments.find? (·.1 == name)).map (·.2)).getD ""

/-- Adds characters to the last of some fields. -/
def extend (fields : List (List Char)) (cs : List Char) : List (List Char) :=
  match fields.getLast? with
  | some last => fields.dropLast ++ [last ++ cs]
  | none => [cs]

/-- Adds a value that is split at blanks. -/
def extendSplit (fields : List (List Char)) (value : List Char) : List (List Char) :=
  let isBlank (c : Char) := c == ' ' || c == '\t' || c == '\n'
  value.foldl (fun (fields, afterBlank) c =>
    if isBlank c then (fields, true)
    else if afterBlank then (fields ++ [[c]], false)
    else (extend fields [c], false)) (fields, false) |>.1

/-- The fields that a word stands for: one, unless a parameter outside quotes has blanks in it or no
characters at all. -/
def fieldsOf (p : Process) (w : Word) : List String :=
  (w.foldl (fun fields piece => match piece with
    | .text _ cs => extend fields cs
    | .parameter true "@" =>
      match p.arguments.drop 1 with
      | [] => fields
      | first :: more => extend fields first.toList ++ more.map String.toList
    | .parameter true name => extend fields (p.valueOf name).toList
    | .parameter false name => extendSplit fields (p.valueOf name).toList) []).map String.ofList

/-- The text of a word that is not split. -/
def textOf (p : Process) (w : Word) : String := " ".intercalate (p.fieldsOf w)

/-- The variable that a word sets, and its value. -/
def assignment? (p : Process) : Word → Option (String × String)
  | w =>
    let start := (w.takeWhile fun piece => match piece with
      | .text false [c] => c != '='
      | _ => false)
    match w.drop start.length with
    | .text false ['='] :: value =>
      let name := start.flatMap fun piece => match piece with
        | .text _ cs => cs
        | .parameter .. => []
      if name.isEmpty || !name.all Token.isNameChar then none
      else some (String.ofList name, p.textOf value)
    | _ => none

/-- Redirects a stream; `none` if a file cannot be read. -/
def redirect? (files : Files) (p : Process) (s : Streams) (r : Redirect) : Option Streams :=
  let operand := p.textOf r.operand
  let route (destination : Destination) : Streams :=
    if r.stream = 1 then { s with output := destination }
    else if r.stream = 2 then { s with errors := destination }
    else s
  match r.kind with
  | .source =>
    if operand = "/dev/null" then some { s with input := some "" }
    else (files operand).map fun text => { s with input := some text }
  | .target => some (route .nowhere)
  | .duplicate =>
    match operand with
    | "1" => some (route s.output)
    | "2" => some (route s.errors)
    | _ => some (route .nowhere)

/-- Adds an effect whose streams are redirected. -/
def add (p : Process) (s : Streams) (e : Effect) : Process :=
  let sent (destination : Destination) : String :=
    (if s.output = destination then e.output else "")
      ++ (if s.errors = destination then e.errors else "")
  { p with
    input := if s.input.isSome then p.input else e.input
    output := p.output ++ sent .output
    errors := p.errors ++ sent .errors
    status := e.status
    millis := p.millis + e.millis
    ending := e.ending }

/-- The process as an effect on the one that started it; only signals concern that one too. -/
def effect (p : Process) : Effect where
  output := p.output
  errors := p.errors
  input := p.input
  status := match p.ending with
    | some (.exited status) => status
    | _ => p.status
  millis := p.millis
  ending := match p.ending with
    | some (.killed signal) => some (.killed signal)
    | _ => none

/-- A process that runs a part of a script of another one. -/
def part (p : Process) (input : String) : Process :=
  { p with input := input, output := "", errors := "", millis := 0 }

/-- The streams of the process itself. -/
def ownStreams : Streams := ⟨none, .output, .errors⟩

/-- Starts a command by the text of its words. -/
def start (files : Files) (other : List String → String → Option Effect) (p : Process)
    (input : String) : List String → Effect
  | [] => .done input p.status
  | "exec" :: words =>
    let e := start files other p input words
    { e with ending := e.ending.or (some (.exited e.status)) }
  | name :: args =>
    match (builtin? files p.status input name args).or (other (name :: args) input) with
    | some e => e
    | none => .failed input ((p.arguments.headD "sh") ++ ": 1: " ++ name ++ ": not found") 127

/-- Reads a line into a variable; it fails at the end of the input. -/
def readLine (p : Process) (name : String) : Process :=
  let line := p.input.toList.takeWhile (· != '\n')
  let rest := p.input.toList.dropWhile (· != '\n')
  { p with
    assignments := (name, String.ofList line) :: p.assignments
    input := String.ofList (rest.drop 1)
    status := if rest.isEmpty then 1 else 0 }

/-- Runs a command. -/
def runCommand (files : Files) (other : List String → String → Option Effect) (p : Process)
    (words : List Word) (redirects : List Redirect) : Process :=
  let assigned := words.takeWhile fun w => (p.assignment? w).isSome
  let fields := (words.drop assigned.length).flatMap p.fieldsOf
  let set := { p with assignments := (assigned.filterMap p.assignment?).reverse ++ p.assignments }
  match redirects.foldlM (redirect? files p) ownStreams with
  | none =>
    p.add ownStreams
      (.failed p.input ((p.arguments.headD "sh") ++ ": 1: cannot open file") 2)
  | some streams =>
    match fields with
    | [] => { set with status := 0 }
    | ["read", name] => p.readLine name
    | fields => p.add streams (start files other p (streams.input.getD p.input) fields)

/-- Runs a script. -/
def run (files : Files) (other : List String → String → Option Effect) :
    Script → Process → Process
  | .empty, p => p
  | .command words redirects, p => p.runCommand files other words redirects
  | .group subshell body redirects, p =>
    match redirects.foldlM (redirect? files p) ownStreams with
    | none => { p with status := 2 }
    | some streams =>
      let inner := run files other body (p.part (streams.input.getD p.input))
      let outer := p.add streams inner.effect
      if subshell then outer
      else { outer with assignments := inner.assignments, ending := inner.ending }
  | .sequence first second, p =>
    let p := run files other first p
    if p.ending.isSome then p else run files other second p
  | .both first second, p =>
    let p := run files other first p
    if p.ending.isSome || p.status ≠ 0 then p else run files other second p
  | .either first second, p =>
    let p := run files other first p
    if p.ending.isSome || p.status = 0 then p else run files other second p
  | .pipe first second, p =>
    let writer := run files other first (p.part p.input)
    let reader := run files other second (p.part writer.output)
    let e := reader.effect
    p.add ownStreams
      { e with
        errors := writer.errors ++ e.errors
        input := writer.input
        millis := max writer.millis e.millis
        ending := writer.effect.ending.or e.ending }
  | .negated body, p =>
    let p := run files other body p
    { p with status := if p.status = 0 then 1 else 0 }
  | .branch condition yes no, p =>
    let p := run files other condition p
    if p.ending.isSome then p
    else if p.status = 0 then run files other yes p
    else run files other no { p with status := 0 }

/-- The shells. -/
def shells : List String := ["sh", "dash", "bash"]

/-- The name of a program without the directory programs are in. -/
def baseName (program : String) : String :=
  if program.startsWith "/bin/" then String.ofList (program.toList.drop 5)
  else if program.startsWith "/usr/bin/" then String.ofList (program.toList.drop 9)
  else program

/-- Runs a text as a script. -/
def runText (files : Files) (other : List String → String → Option Effect)
    (arguments : List String) (text input : String) : Effect :=
  let p : Process := ⟨arguments, [], input, "", "", 0, 0, none⟩
  match Script.ofText? text with
  | some script => (run files other script p).effect
  | none => .failed input ((arguments.headD "sh") ++ ": 1: Syntax error") 2

/-- Runs a program with arguments over an input; `none` if there is no such program. Shells start
shells at most `depth` deep. -/
def program? (files : Files) : (depth : Nat) → List String → String → Option Effect
  | 0, _, _ => none
  | depth + 1, words, input =>
    match words with
    | [] => none
    | name :: args =>
      if shells.contains (baseName name) then
        let other := program? files depth
        match args with
        | "-c" :: text :: [] => some (runText files other [name] text input)
        | "-c" :: text :: arguments => some (runText files other arguments text input)
        | ["-c"] => some (.failed input (name ++ ": 0: -c requires an argument") 2)
        | path :: _ =>
          match files path with
          | some text => some (runText files other args text input)
          | none => some (.failed input (name ++ ": 0: cannot open " ++ path ++ ": No such file") 2)
        | [] => some (runText files other [name] input "")
      else if ["exit", ":"].contains name then none
      else builtin? files 0 input (baseName name) args

/-- How deep shells may start shells. -/
def maxDepth : Nat := 8

end Process

/-- The programs of a system on which there are some files, and nothing but shells and their commands. -/
def programs (files : Files) : Programs := fun arguments input =>
  match Process.program? files Process.maxDepth arguments input with
  | some effect => .ok effect
  | none => .error "No such file or directory (os error 2)"

end Crosscheck.Shell
