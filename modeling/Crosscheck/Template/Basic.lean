import Crosscheck.Catalog.Operation
import Crosscheck.Template.Marker

/-!
# Crosscheck.Template.Basic

**Kernel templates.** A template is kernel text with placeholders, together with the class of
operations it hosts and the entry point that a device launches. The kernel of a test point is the
text with every placeholder replaced.
-/

namespace Crosscheck

/-- A kernel template. -/
structure Template where
  /-- What point names begin with. -/
  id : String
  /-- The entry point. -/
  entry : String
  /-- The class of operations it hosts. -/
  shape : OperationClass
  /-- The kernel text, with placeholders. -/
  text : String
  deriving DecidableEq, Repr

/-- A kernel, ready for a device. -/
structure Kernel where
  /-- The entry point. -/
  entry : String
  /-- The text. -/
  source : String
  deriving DecidableEq, Repr

namespace Template

/-- The distinct placeholder names of the template, in ascending order. -/
def placeholders (t : Template) : List String := Crosscheck.placeholders t.text

/-- Whether the template has a placeholder of a name. -/
def references (t : Template) (name : String) : Bool := t.placeholders.contains name

end Template

end Crosscheck
