import Crosscheck.CommandLine.Options

/-!
# Crosscheck.CommandLine.Command

**The commands and their options.** The first word of the arguments names a command; options about
logging may stand before or after it.
-/

namespace Crosscheck.CommandLine

/-- Which points of which templates are wanted. -/
structure SelectOptions where
  /-- A manifest, in place of the bundled templates. -/
  manifest : Option String
  /-- Identifiers of templates. -/
  templates : List String
  /-- Names of types. -/
  types : List String
  /-- Mnemonics of operations. -/
  operations : List String
  /-- A pattern for the names of points. -/
  filter : Option String
  deriving DecidableEq, Repr

/-- What a run is to be like, over what its configuration says. -/
structure RunOptions where
  /-- The file of the configuration. -/
  config : Option String
  /-- The seed. -/
  seed : Option Nat
  /-- Random rows per point. -/
  samples : Option Nat
  /-- How long a device may take for a point, in milliseconds. -/
  timeoutMillis : Option Nat
  /-- How many points are in work at once. -/
  jobs : Option Nat
  /-- The largest tolerated distance of two floats. -/
  maxUlp : Option Nat
  /-- What shift amounts at or beyond the width do. -/
  shiftPolicy : Option ShiftPolicy
  /-- Whether bit fields of length zero are left out. -/
  noZeroLength : Bool
  /-- Whether the device is the emulator. -/
  emulate : Bool
  /-- Whether the report is written as JSON. -/
  asJson : Bool
  /-- Whether points that passed are listed. -/
  verbose : Bool
  deriving DecidableEq, Repr

/-- A command. -/
inductive Command where
  /-- Lists the names of points. -/
  | list (select : SelectOptions) (config : Option String)
  /-- Checks templates. -/
  | validate (manifest : Option String)
  /-- Shows the kernel of a point, and maybe its inputs. -/
  | expand (point : String) (manifest config : Option String) (seed : Option Nat) (inputs : Bool)
  /-- Runs points on a device, which may be given as a program with arguments. -/
  | run (select : SelectOptions) (options : RunOptions) (program : List String)
  /-- Answers a request. -/
  | emulate (policy : ShiftPolicy)
  deriving DecidableEq, Repr

namespace Command

/-- The options that every command takes. -/
def logging : List OptionSpec := [.valued "log-level" .text, .valued "log-format" .text]

/-- The options of a selection. -/
def selecting : List OptionSpec :=
  [.valued "templates" .path, .repeated "template", .repeated "type", .repeated "op",
    .valued "filter" .text]

/-- The options of a run. -/
def running : List OptionSpec :=
  [.valued "config" .path, .valued "seed" .number, .valued "samples" .number,
    .valued "timeout-ms" .number, (OptionSpec.valued "jobs" .number).withLetter 'j',
    .valued "max-ulp" .number, .valued "shift-policy" .policy, .flag "no-zero-length",
    .flag "emulate", .valued "format" .format, (OptionSpec.flag "verbose").withLetter 'v']

/-- The options of a command of a name, without those every command takes. -/
def specs? : String → Option (List OptionSpec)
  | "list" => some (selecting ++ [.valued "config" .path])
  | "validate" => some [.valued "templates" .path]
  | "expand" => some
      [.valued "templates" .path, .valued "config" .path, .valued "seed" .number, .flag "inputs"]
  | "run" => some (selecting ++ running)
  | "emulate" => some [.valued "shift-policy" .policy]
  | _ => none

/-- The selection that options describe. -/
def selectOf (g : Given) : SelectOptions :=
  ⟨g.value? "templates", g.values "template", g.values "type", g.values "op", g.value? "filter"⟩

/-- The shift policy that options name. -/
def policyOf? (g : Given) : Option ShiftPolicy :=
  (g.value? "shift-policy").bind ShiftPolicy.ofName?

/-- The run that options describe. -/
def runOf (g : Given) : RunOptions where
  config := g.value? "config"
  seed := g.number? "seed"
  samples := g.number? "samples"
  timeoutMillis := g.number? "timeout-ms"
  jobs := g.number? "jobs"
  maxUlp := g.number? "max-ulp"
  shiftPolicy := policyOf? g
  noZeroLength := g.has "no-zero-length"
  emulate := g.has "emulate"
  asJson := g.value? "format" == some "json"
  verbose := g.has "verbose"

/-- The command of a name with options. Only runs take arguments after two dashes as such. -/
def ofGiven? (name : String) (g : Given) : Option Command :=
  match name, g.words, g.trailing with
  | "list", [], [] => some (.list (selectOf g) (g.value? "config"))
  | "validate", [], [] => some (.validate (g.value? "templates"))
  | "expand", [point], [] | "expand", [], [point] =>
    some (.expand point (g.value? "templates") (g.value? "config") (g.number? "seed")
      (g.has "inputs"))
  | "run", [], program => some (.run (selectOf g) (runOf g) program)
  | "emulate", [], [] => some (.emulate ((policyOf? g).getD .clamp))
  | _, _, _ => none

/-- The command that arguments describe. -/
def ofArguments (args : List String) : Reading Command :=
  match readArguments logging true (args.length + 1) .empty args with
  | .help => .help
  | .wrong => .wrong
  | .ok outer =>
    match outer.rest with
    | [] => .wrong
    | name :: rest =>
      if name = "help" then .help
      else
        match specs? name with
        | none => .wrong
        | some specs =>
          match readArguments (specs ++ logging) false (rest.length + 1) .empty rest with
          | .help => .help
          | .wrong => .wrong
          | .ok g =>
            match ofGiven? name g with
            | some command => .ok command
            | none => .wrong

end Command

end Crosscheck.CommandLine
