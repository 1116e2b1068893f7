import Crosscheck.Catalog.Semantics
import Crosscheck.Device.Fault
import Crosscheck.Device.Slots
import Crosscheck.Float.Ulp
import Crosscheck.Main
import Crosscheck.Matrix.Basic
import Crosscheck.Oracle
import Crosscheck.Template.Store
import Crosscheck.Word.Lemmas
import Crosscheck.Proofs.Device.Occupancy
import Crosscheck.Proofs.Device.Soundness
import Crosscheck.Proofs.Run.Verdict
import Crosscheck.Proofs.Word.BitField
import Crosscheck.Proofs.Word.Machine
import Crosscheck.Proofs.Template.Marking
import Crosscheck.Proofs.Run.Rejection
import Crosscheck.Proofs.Run.Locality
import Crosscheck.Proofs.Device.Overwriting
import Crosscheck.Proofs.Device.Remote
import Crosscheck.Proofs.Template.Composite
import Crosscheck.Proofs.Word.Confinement
import Crosscheck.Proofs.CommandLine.Expansion
import Crosscheck.Proofs.Device.Messages
import Crosscheck.Proofs.Matrix.Enumeration
import Crosscheck.Proofs.Run.Interleaving
import Crosscheck.Proofs.CommandLine.Success
import Crosscheck.Proofs.Buffer.Image
import Crosscheck.Proofs.Word.Insertion
import Crosscheck.Proofs.Float.Distance
import Crosscheck.Proofs.Report.Archive
import Crosscheck.Proofs.Template.Declaration
import Crosscheck.Proofs.Matrix.Samples
import Crosscheck.Proofs.Catalog.Validation
import Crosscheck.Proofs.Matrix.Expected
import Crosscheck.Proofs.Matrix.Seed
import Crosscheck.Proofs.Float.Extremes
import Crosscheck.Proofs.Device.Namesakes
import Crosscheck.Proofs.Compare.Acceptance
import Crosscheck.Proofs.Compare.Listing
import Crosscheck.Proofs.Float.DoubleRounding
import Crosscheck.Proofs.Template.Discovery
import Crosscheck.Proofs.Matrix.Fields
import Crosscheck.Proofs.Compare.Diagnostics
