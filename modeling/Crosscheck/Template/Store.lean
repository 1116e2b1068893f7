import Crosscheck.Template.Bundled
import Crosscheck.Template.Validation

/-!
# Crosscheck.Template.Store

**Validated sets of templates.** A store keeps its templates in order. It is built only if their
identifiers are distinct and none of them has a violation that is an error; the first offence, in the
order of the templates, is the one that is reported.
-/

namespace Crosscheck

/-- A validated set of templates. -/
structure TemplateStore where
  /-- The templates, in order. -/
  templates : List Template
  deriving Repr

namespace TemplateStore

/-- The first offence of templates that follow templates with the identifiers `seen`. -/
def offence? (seen : List String) : List Template → Option CheckError
  | [] => none
  | t :: ts =>
    if seen.contains t.id then some (.duplicateTemplate t.id)
    else
      match t.violations.find? Violation.isError with
      | some v => some (.malformedTemplate t.id v.text)
      | none => offence? (t.id :: seen) ts

/-- The store of some templates, if they can be used. -/
def ofTemplates (ts : List Template) : Except CheckError TemplateStore :=
  match offence? [] ts with
  | some e => .error e
  | none => .ok ⟨ts⟩

/-- The store of the bundled templates. -/
def bundled : TemplateStore := ⟨Template.bundled⟩

/-- The template of an identifier. -/
def get? (s : TemplateStore) (id : String) : Option Template := s.templates.find? (·.id == id)

/-- The number of templates. -/
def size (s : TemplateStore) : Nat := s.templates.length

end TemplateStore

end Crosscheck
