import Tolerance.Ledger.Display
import Tolerance.Main
import Tolerance.Proofs.Captured
import Tolerance.Proofs.Exactness
import Tolerance.Proofs.Failure
import Tolerance.Proofs.History
import Tolerance.Proofs.Independence
import Tolerance.Proofs.LeastBaseline
import Tolerance.Proofs.Linter.Completeness
import Tolerance.Proofs.Linter.Shapes
import Tolerance.Proofs.MachineMode
import Tolerance.Proofs.Patch
import Tolerance.Proofs.StoredForm
import Tolerance.Proofs.Succession
import Tolerance.Proofs.NormalForm
import Tolerance.Proofs.Excerpt
import Tolerance.Proofs.Text.Styled
import Tolerance.Proofs.Pointer
import Tolerance.Proofs.Agreement
import Tolerance.Proofs.Listing
import Tolerance.Proofs.Threshold
import Tolerance.Proofs.Views
import Tolerance.Proofs.Copies
import Tolerance.Proofs.Linter.LockFile
import Tolerance.Proofs.Discovery
