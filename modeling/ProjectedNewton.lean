import ProjectedNewton.Control.Demonstration
import ProjectedNewton.Inspection
import ProjectedNewton.Main
import ProjectedNewton.Proofs.Control.Optimal
import ProjectedNewton.Proofs.Exact.Descent
import ProjectedNewton.Proofs.Exact.Separable
import ProjectedNewton.Proofs.Session.Reuse
import ProjectedNewton.Proofs.Solution.Valid
import ProjectedNewton.Proofs.Solver.Budget
import ProjectedNewton.Session
import ProjectedNewton.Proofs.Solver.Provenance
import ProjectedNewton.Proofs.Solver.Exhausted
import ProjectedNewton.Proofs.Exact.Relabelling
import ProjectedNewton.Proofs.Solver.Relabelling
import ProjectedNewton.Proofs.Decimal.Overflow
import ProjectedNewton.Proofs.Solver.Atomic
import ProjectedNewton.Proofs.Session.Valid
import ProjectedNewton.Proofs.Exact.Acceptance
import ProjectedNewton.Proofs.Exact.Factorization
import ProjectedNewton.Proofs.Solver.Repeat
import ProjectedNewton.Proofs.Solver.Validation
import ProjectedNewton.Proofs.Solver.Trace
import ProjectedNewton.Proofs.Control.Replay
import ProjectedNewton.Proofs.Control.Failure
