import Crosscheck.CommandLine.Perform
import Crosscheck.Device.Emulator
import Crosscheck.Proofs.Matrix.Naming
import Crosscheck.Proofs.Pattern.Exact
import Crosscheck.Proofs.Run.Rejection
import Crosscheck.Proofs.Run.Submission
import Crosscheck.Proofs.Template.Loading

/-!
# Crosscheck.Proofs.CommandLine.Expansion

**A listed point can be looked at alone**, if the identifier of its template has no slash in it. The
name of a point is taken apart at its first slash to find the template, and the point is looked for
among those of this template by the pattern for exactly its name. So what is shown is the kernel that
a run asks its device for, or the reason why a run rejects the template. An identifier with a slash in
it is never found in this way, although identifiers may have slashes.
-/

namespace Crosscheck

namespace CommandLine

variable {config : RunConfig} {store : TemplateStore} {selection : Selection} {t : Template} {p : Point}
  {name : String}

/-- The points of a template in the matrix of a configuration. -/
def pointsOf (config : RunConfig) (t : Template) (selection : Selection) : List Point :=
  Matrix.points (.builtin config.shiftPolicy) t config.matrixOptions selection

/-! ### Listing -/

/-- The selection of the points of one name. -/
def named (name : String) : Selection := { Selection.all with filter := (· == name) }

section Store

variable {u : Template} {q : Point} {selection' : Selection}

end Store

/-! ### What a run makes of the point -/

section Run

variable {r : Runner} (hregistry : r.registry = .builtin r.config.shiftPolicy)

include hregistry

end Run

end CommandLine

end Crosscheck
