import Crosscheck.Template.Bindings
import Crosscheck.Text.Lines

/-!
# Crosscheck.Template.Validation

**The rules a template has to keep.** Every rule has a fixed name, and every violation a severity: a
template with an error cannot be used, a warning says that something will probably not work as meant.

A template declares an entry if some line has the word `.entry` and the word after the first such
one, without opening parentheses at its end, is the name of the entry.
-/

namespace Crosscheck

/-- How bad a violation is. -/
inductive Severity where
  /-- The template cannot be used. -/
  | error
  /-- The template can be used, though probably not as meant. -/
  | warning
  /-- Worth knowing. -/
  | info
  deriving DecidableEq, Repr

/-- The written label of a severity. -/
def Severity.label : Severity → String
  | .error => "ERROR"
  | .warning => "WARN"
  | .info => "INFO"

/-- A broken rule. -/
structure Violation where
  /-- How bad it is. -/
  severity : Severity
  /-- The name of the rule. -/
  rule : String
  /-- What is wrong. -/
  message : String
  /-- Where it is wrong. -/
  location : Option String
  deriving DecidableEq, Repr

namespace Violation

/-- A violation as one line. -/
def text (v : Violation) : String := "[" ++ v.severity.label ++ "] " ++ v.rule ++ ": " ++ v.message

/-- Whether the violation makes its template unusable. -/
def isError (v : Violation) : Bool := v.severity == .error

end Violation

namespace Template

/-- Whether a line declares the entry: the word after its first word `.entry` is the name of the
entry, with any number of opening parentheses at its end. -/
def lineDeclaresEntry (entry line : List Char) : Bool :=
  match (Text.words line).dropWhile (· != ".entry".toList) with
  | _ :: name :: _ => (name.reverse.dropWhile (· == '(')).reverse == entry
  | _ => false

/-- Whether the text declares the template's entry. -/
def declaresEntry (t : Template) : Bool :=
  (Text.lines t.text).any (lineDeclaresEntry t.entry.toList)

/-- Violations of the rules on names. -/
def identityViolations (t : Template) : List Violation :=
  (if Text.isBlankText t.id then [⟨.error, "TPL-006", "template id must not be empty", none⟩]
    else [])
  ++ (if Text.isBlankText t.entry then
      [⟨.error, "TPL-007", t.id ++ ".entry must not be empty", some (t.id ++ ".entry")⟩]
    else [])

/-- The markers of the text that are no placeholders although their names are identifiers, in order
of occurrence. -/
def nearPlaceholders (t : Template) : List String :=
  (MarkerGrammar.identifier.occurrences t.text).filter fun name => !t.placeholders.contains name

/-- Violations of the rules on the text. An empty text breaks no further ones. -/
def textViolations (t : Template) : List Violation :=
  if Text.isBlankText t.text then
    [⟨.error, "TPL-001", t.id ++ ": template text is empty", some t.id⟩]
  else
    (if t.references "OP" then []
      else [⟨.error, "TPL-002",
        t.id ++ ": template never references <OP>; every expansion would run the same instruction",
        some t.id⟩])
    ++ (if t.entry ≠ "" ∧ t.declaresEntry = false then
        [⟨.error, "TPL-003", t.id ++ ": no `.entry " ++ t.entry ++ "` in template text",
          some (t.id ++ ".entry")⟩]
      else [])
    ++ t.nearPlaceholders.map fun name =>
      ⟨.warning, "TPL-009",
        t.id ++ ": <" ++ name
          ++ "> looks like a placeholder but is not upper-case; it will be emitted verbatim",
        some t.id⟩

/-- The placeholders that nothing binds in templates of this class, in ascending order. -/
def unboundPlaceholders (t : Template) : List String :=
  t.placeholders.filter fun name => !(Bindings.bindableNames t.shape).contains name

/-- Violations of the rules on placeholders. -/
def bindingViolations (t : Template) : List Violation :=
  (t.unboundPlaceholders.map fun name =>
    ⟨.warning, "TPL-004",
      t.id ++ ": <" ++ name ++ "> has no binding for " ++ t.shape.name
        ++ " templates; expansion will fail",
      some t.id⟩)
  ++ (if t.shape.hasBitField && !(t.references "POS" && t.references "LEN") then
      [⟨.warning, "TPL-005",
        t.id ++ ": bit-field template does not reference both <POS> and <LEN>", some t.id⟩]
    else [])

/-- All violations of a template. -/
def violations (t : Template) : List Violation :=
  t.identityViolations ++ t.textViolations ++ t.bindingViolations

/-- The violation of an identifier that an earlier template has. -/
def duplicateViolation (t : Template) : Violation :=
  ⟨.error, "TPL-008", "Duplicate template ID: " ++ t.id, some t.id⟩

/-- The violations of templates that follow templates with the identifiers `seen`. -/
def violationsAfter (seen : List String) : List Template → List Violation
  | [] => []
  | t :: ts =>
    (if seen.contains t.id then [t.duplicateViolation] else []) ++ t.violations
      ++ violationsAfter (t.id :: seen) ts

/-- All violations of a list of templates. -/
def violationsOf (ts : List Template) : List Violation := violationsAfter [] ts

end Template

end Crosscheck
