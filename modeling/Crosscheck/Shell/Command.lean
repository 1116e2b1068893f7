import Crosscheck.Text.Numeral

/-!
# Crosscheck.Shell.Command

**The commands that scripts are made of.** A command reads its input and some files, and has an effect:
what it writes, what it leaves of the input, how long it takes and how it ends. Nothing else in the
world is changed.
-/

namespace Crosscheck.Shell

/-- How a process ends before its script does. -/
inductive Ending where
  /-- With a status, zero if it succeeded. -/
  | exited (status : Nat)
  /-- By a signal. -/
  | killed (signal : Nat)
  deriving DecidableEq, Repr

/-- What a command does. -/
structure Effect where
  /-- What it writes to its output. -/
  output : String
  /-- What it writes to its errors. -/
  errors : String
  /-- What it leaves of its input. -/
  input : String
  /-- Its status. -/
  status : Nat
  /-- How many milliseconds it takes. -/
  millis : Nat
  /-- How it ends the process that runs it, if it does. -/
  ending : Option Ending
  deriving DecidableEq, Repr

/-- A file system: the text of the file of a path. -/
abbrev Files := String → Option String

/-- What programs do: the arguments of a process, the program's name first, and its input, are given. If
the process cannot be started, there is a reason. -/
abbrev Programs := List String → String → Except String Effect

/-- The number by which a script knows its own process. -/
def ownProcess : String := "1000"

/-- The names of signals that end a process, and their numbers. -/
def signals : List (String × Nat) :=
  [("HUP", 1), ("INT", 2), ("QUIT", 3), ("ILL", 4), ("TRAP", 5), ("ABRT", 6), ("BUS", 7),
    ("FPE", 8), ("KILL", 9), ("USR1", 10), ("SEGV", 11), ("USR2", 12), ("PIPE", 13), ("ALRM", 14),
    ("TERM", 15), ("STKFLT", 16), ("XCPU", 24), ("XFSZ", 25), ("VTALRM", 26), ("PROF", 27),
    ("IO", 29), ("PWR", 30), ("SYS", 31)]

namespace Ending

/-- Whether the process succeeded. -/
def succeeded : Ending → Bool
  | exited status => status == 0
  | killed _ => false

/-- How the end of a process is told. -/
def text : Ending → String
  | exited status => "exit status: " ++ toString status
  | killed signal =>
    "signal: " ++ toString signal
      ++ match signals.find? (·.2 == signal) with
        | some (name, _) => " (SIG" ++ name ++ ")"
        | none => ""

end Ending

namespace Effect

/-- Nothing but a status. -/
def done (input : String) (status : Nat) : Effect := ⟨"", "", input, status, 0, none⟩

/-- Success with some output. -/
def wrote (input output : String) : Effect := { done input 0 with output := output }

/-- Failure with a message. -/
def failed (input message : String) (status : Nat) : Effect :=
  { done input status with errors := message ++ "\n" }

end Effect

/-- The value of up to `digits` octal digits at the front, and what follows them. -/
def octal (digits : Nat) (cs : List Char) : Nat × List Char :=
  let taken := (cs.take digits).takeWhile fun c => c.isDigit && decide (c < '8')
  (taken.foldl (fun n c => 8 * n + (c.toNat - '0'.toNat)) 0, cs.drop taken.length)

/-- The character of a letter after a backslash. -/
def escapedLetter? : Char → Option Char
  | '\\' => some '\\'
  | 'a' => some '\x07'
  | 'b' => some '\x08'
  | 'f' => some '\x0c'
  | 'n' => some '\n'
  | 'r' => some '\r'
  | 't' => some '\t'
  | 'v' => some '\x0b'
  | _ => none

/-- A text with its backslashes interpreted; octal numbers follow a zero. -/
def unescaped : (fuel : Nat) → List Char → List Char
  | 0, cs => cs
  | fuel + 1, cs =>
    match cs with
    | [] => []
    | '\\' :: '0' :: rest =>
      let (n, rest) := octal 3 rest
      Char.ofNat n :: unescaped fuel rest
    | '\\' :: c :: rest =>
      match escapedLetter? c with
      | some e => e :: unescaped fuel rest
      | none => '\\' :: c :: unescaped fuel rest
    | c :: rest => c :: unescaped fuel rest

/-- Writes the arguments on a line. -/
def echo (args : List String) : String :=
  let (words, last) := match args with
    | "-n" :: words => (words, "")
    | words => (words, "\n")
  let text := " ".intercalate words
  String.ofList (unescaped (text.length + 1) text.toList) ++ last

/-- Writes arguments through a format once; the result is what is written, the arguments that are
left, and whether the format has places for arguments. -/
def formatOnce : (fuel : Nat) → List Char → List String → List Char × List String × Bool
  | 0, _, args => ([], args, false)
  | fuel + 1, format, args =>
    let write (text : List Char) (rest : List Char) :=
      let (more, left, places) := formatOnce fuel rest args
      (text ++ more, left, places)
    let place (f : List Char → List Char) (rest : List Char) :=
      let (more, left, _) := formatOnce fuel rest (args.drop 1)
      (f (args.headD "").toList ++ more, left, true)
    match format with
    | [] => ([], args, false)
    | '%' :: '%' :: rest => write ['%'] rest
    | '%' :: 's' :: rest => place id rest
    | '%' :: 'b' :: rest => place (fun cs => unescaped (cs.length + 1) cs) rest
    | '%' :: 'c' :: rest => place (·.take 1) rest
    | '%' :: 'd' :: rest => place (fun cs => if cs.isEmpty then ['0'] else cs) rest
    | '\\' :: c :: rest =>
      if c.isDigit && c < '8' then
        let (n, rest) := octal 3 (c :: rest)
        write [Char.ofNat n] rest
      else if c == '"' then write ['"'] rest
      else
        match escapedLetter? c with
        | some e => write [e] rest
        | none => write ['\\', c] rest
    | c :: rest => write [c] rest

/-- Writes arguments through a format, again as long as arguments are left. -/
def printf (format : String) : (fuel : Nat) → List String → List Char
  | 0, _ => []
  | fuel + 1, args =>
    let (text, left, places) := formatOnce (format.length + 1) format.toList args
    if places && !left.isEmpty then text ++ printf format fuel left else text

/-- The milliseconds of a decimal number of seconds. -/
def millisOf? (seconds : String) : Option Nat :=
  let cs := seconds.toList
  let whole := cs.takeWhile (· != '.')
  let places := (cs.dropWhile (· != '.')).drop 1
  Text.ofDigits? 10 ((if whole.isEmpty then ['0'] else whole)
    ++ (places ++ ['0', '0', '0']).take 3)

/-- The number of a signal, given by number or by name. -/
def signal? (text : String) : Option Nat :=
  match Text.ofDigits? 10 text.toList with
  | some n => some n
  | none => (signals.find? fun (name, _) => name == text || "SIG" ++ name == text).map (·.2)

/-- What a signal does to a process that gets it. -/
def receive (input : String) (signal : Nat) : Effect :=
  if signals.any (·.2 == signal) then
    { Effect.done input 0 with ending := some (.killed signal) }
  else .done input 0

/-- Sends a signal to a process. -/
def kill (input : String) (args : List String) : Effect :=
  let (signal, targets) := match args with
    | "-s" :: name :: targets => (signal? name, targets)
    | first :: targets =>
      if first.startsWith "-" then (signal? (String.ofList (first.toList.drop 1)), targets)
      else (some 15, args)
    | [] => (some 15, [])
  match signal with
  | some n => if targets.contains ownProcess then receive input n else .done input 1
  | none => .done input 1

/-- Writes the input and files, one after the other. -/
def cat (files : Files) (input : String) (args : List String) : Effect :=
  if args.isEmpty then .wrote "" input
  else
    args.foldl (fun e arg =>
      if arg = "-" then { e with output := e.output ++ e.input, input := "" }
      else
        match files arg with
        | some text => { e with output := e.output ++ text }
        | none =>
          { e with
            errors := e.errors ++ "cat: " ++ arg ++ ": No such file or directory\n"
            status := 1 })
      (.done input 0)

/-- What the end of a process with a status text does. -/
def exit (input : String) (last : Nat) : List String → Effect
  | [] => { Effect.done input last with ending := some (.exited last) }
  | text :: _ =>
    match Text.ofDigits? 10 text.toList with
    | some n => { Effect.done input (n % 256) with ending := some (.exited (n % 256)) }
    | none =>
      { Effect.failed input ("sh: 1: exit: Illegal number: " ++ text) 2 with
        ending := some (.exited 2) }

/-- What a command of a name does, if there is one; `last` is the status of the command before. -/
def builtin? (files : Files) (last : Nat) (input name : String) (args : List String) :
    Option Effect :=
  match name with
  | ":" | "true" | "touch" => some (.done input 0)
  | "false" => some (.done input 1)
  | "echo" => some (.wrote input (echo args))
  | "printf" =>
    match args with
    | format :: args => some (.wrote input (String.ofList (printf format (args.length + 1) args)))
    | [] => some (.failed input "printf: usage: printf format [arg ...]" 2)
  | "cat" => some (cat files input args)
  | "exit" => some (exit input last args)
  | "kill" => some (kill input args)
  | "sleep" => some { Effect.done input 0 with millis := ((args.head?).bind millisOf?).getD 0 }
  | _ => none

end Crosscheck.Shell
