import Retrace.Native.Probes
import Retrace.Session
import Retrace.Unix
import Retrace.Proofs.Builtins
import Retrace.Proofs.Failures
import Retrace.Proofs.Horizon
import Retrace.Proofs.Locating
import Retrace.Proofs.Markers
import Retrace.Proofs.Naming
import Retrace.Proofs.Nesting
import Retrace.Proofs.Quoting
import Retrace.Proofs.Recording
import Retrace.Proofs.Reinstating
import Retrace.Proofs.Rollback
import Retrace.Proofs.Seizing
import Retrace.Proofs.Skips
import Retrace.Proofs.Storing
import Retrace.Proofs.Termination
import Retrace.Proofs.Undoless
import Retrace.Proofs.Variadic
import Retrace.Proofs.Visibility
