import Crosscheck.Text.Blank
import Crosscheck.Text.Numeral
import Crosscheck.Word.Bitwise

/-!
# Crosscheck.CommandLine.Options

**Reading options.** A long option starts with two dashes and has its value behind an equals sign or
in the next argument; short options are single letters behind one dash, and may share it. Two dashes
alone end the options. An option is given once, unless it can be repeated, and its value is checked on
the spot.
-/

namespace Crosscheck.CommandLine

/-- What values an option takes. -/
inductive ValueKind where
  /-- Any text. -/
  | text
  /-- A path, which is not empty. -/
  | path
  /-- A 64-bit natural number. -/
  | number
  /-- The name of a shift policy. -/
  | policy
  /-- The name of a report format. -/
  | format
  deriving DecidableEq, Repr

/-- An option. -/
structure OptionSpec where
  /-- Its long name. -/
  name : String
  /-- Its letter, if it has one. -/
  letter : Option Char
  /-- The values it takes; `none` for a flag. -/
  value : Option ValueKind
  /-- Whether it can be repeated. -/
  repeatable : Bool
  deriving DecidableEq, Repr

/-- Arguments that were read. -/
structure Given where
  /-- The options and their values, last one first; flags have the empty value. -/
  options : List (String × String)
  /-- The other arguments, in order. -/
  words : List String
  /-- The arguments after two dashes. -/
  trailing : List String
  /-- What was not read. -/
  rest : List String
  deriving DecidableEq, Repr

/-- What comes of reading arguments. -/
inductive Reading (α : Type) where
  /-- They were read. -/
  | ok (a : α)
  /-- They ask for help, or for the version. -/
  | help
  /-- They are wrong. -/
  | wrong
  deriving DecidableEq, Repr

namespace ValueKind

/-- The names of the report formats. -/
def formats : List String := ["text", "json"]

/-- Whether a text is a value of the kind. -/
def accepts (text : String) : ValueKind → Bool
  | .text => true
  | path => text != ""
  | number => (Text.unsigned? 64 text.toList).isSome
  | policy => (ShiftPolicy.ofName? text).isSome
  | format => formats.contains text

end ValueKind

namespace OptionSpec

/-- A flag. -/
def flag (name : String) : OptionSpec := ⟨name, none, none, false⟩

/-- An option with a value. -/
def valued (name : String) (kind : ValueKind) : OptionSpec := ⟨name, none, some kind, false⟩

/-- An option with a value that can be repeated. -/
def repeated (name : String) : OptionSpec := ⟨name, none, some .text, true⟩

/-- The option with a letter. -/
def withLetter (o : OptionSpec) (c : Char) : OptionSpec := { o with letter := some c }

end OptionSpec

namespace Given

/-- Nothing. -/
def empty : Given := ⟨[], [], [], []⟩

/-- Adds an option, if it can be added. -/
def add? (g : Given) (o : OptionSpec) (value : String) : Option Given :=
  if (!o.repeatable && g.options.any (·.1 == o.name)) || !o.value.all (·.accepts value) then none
  else some { g with options := (o.name, value) :: g.options }

/-- The value of an option. -/
def value? (g : Given) (name : String) : Option String :=
  (g.options.find? (·.1 == name)).map (·.2)

/-- The values of a repeated option, in order. -/
def values (g : Given) (name : String) : List String :=
  ((g.options.filter (·.1 == name)).map (·.2)).reverse

/-- Whether a flag is given. -/
def has (g : Given) (name : String) : Bool := (g.value? name).isSome

/-- The number that an option has as its value. -/
def number? (g : Given) (name : String) : Option Nat :=
  (g.value? name).bind fun text => Text.unsigned? 64 text.toList

end Given

/-- Whether an argument is an option, so that it cannot be the value of one. -/
def looksLikeOption (arg : String) : Bool := arg.startsWith "-" && arg != "-"

/-- One step of reading options: what is known, whether the next argument was taken as a value, or
that help is asked for. -/
abbrev Step := Reading (Given × Bool)

/-- Adds an option with a value from the same argument or the next one. -/
def addValued (g : Given) (o : OptionSpec) (attached next : Option String) : Step :=
  let added (value : String) (taken : Bool) : Step :=
    match g.add? o value with
    | some g => .ok (g, taken)
    | none => .wrong
  match attached, next with
  | some value, _ => added value false
  | none, some value => if looksLikeOption value then .wrong else added value true
  | none, none => .wrong

/-- Reads a long option. -/
def readLong (specs : List OptionSpec) (g : Given) (text : List Char) (next : Option String) :
    Step :=
  let name := String.ofList (text.takeWhile (· != '='))
  let attached := match text.dropWhile (· != '=') with
    | _ :: value => some (String.ofList value)
    | [] => none
  match specs.find? (·.name == name) with
  | none => if attached.isNone && (name == "help" || name == "version") then .help else .wrong
  | some o =>
    if o.value.isSome then addValued g o attached next
    else
      match attached, g.add? o "" with
      | none, some g => .ok (g, false)
      | _, _ => .wrong

/-- Reads the letters behind one dash. -/
def readShort (specs : List OptionSpec) (next : Option String) : Given → List Char → Step
  | g, [] => .ok (g, false)
  | g, c :: rest =>
    match specs.find? (·.letter == some c) with
    | none => if c == 'h' || c == 'V' then .help else .wrong
    | some o =>
      if o.value.isSome then
        let attached := match rest with
          | [] => none
          | '=' :: value => some (String.ofList value)
          | value => some (String.ofList value)
        addValued g o attached next
      else
        match g.add? o "" with
        | some g => readShort specs next g rest
        | none => .wrong

/-- Reads arguments. If they are to end at the first word, that word and what follows it is left. -/
def readArguments (specs : List OptionSpec) (endAtWord : Bool) :
    (fuel : Nat) → Given → List String → Reading Given
  | 0, _, _ => .wrong
  | _ + 1, g, [] => .ok { g with words := g.words.reverse }
  | fuel + 1, g, arg :: rest =>
    let continued (step : Step) : Reading Given :=
      match step with
      | .ok (g, taken) =>
        readArguments specs endAtWord fuel g (if taken then rest.drop 1 else rest)
      | .help => .help
      | .wrong => .wrong
    match arg.toList with
    | ['-', '-'] => .ok { g with words := g.words.reverse, trailing := rest }
    | '-' :: '-' :: text => continued (readLong specs g text rest.head?)
    | '-' :: c :: letters => continued (readShort specs rest.head? g (c :: letters))
    | _ =>
      if endAtWord then .ok { g with words := g.words.reverse, rest := arg :: rest }
      else readArguments specs endAtWord fuel { g with words := arg :: g.words } rest

end Crosscheck.CommandLine
