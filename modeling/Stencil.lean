import Stencil.Filling.Script
import Stencil.Main
import Stencil.Proofs.Isolation.Acceptance
import Stencil.Proofs.Pattern.Exactness
import Stencil.Proofs.Template.Faults
import Stencil.Proofs.Transform.Reversal
import Stencil.Proofs.Workspace.Coherence
import Stencil.Template.Printer
import Stencil.Workspace
import Stencil.Proofs.Pattern.Searching
import Stencil.Proofs.Workspace.Ledger
import Stencil.Proofs.Workspace.Ownership
import Stencil.Proofs.Reading.Placing
import Stencil.Proofs.Matcher.Completeness
import Stencil.Proofs.Isolation.Rewriting
import Stencil.Proofs.Pattern.Failing
import Stencil.Proofs.Workspace.Snapshot
import Stencil.Proofs.Transform.Checking
import Stencil.Proofs.Transform.Literal
import Stencil.Proofs.Workspace.Substituting
import Stencil.Proofs.Reading.Pairing
import Stencil.Proofs.Isolation.Regrouping
import Stencil.Proofs.Isolation.Localising
import Stencil.Proofs.Pattern.Making
import Stencil.Proofs.Workspace.Representation
import Stencil.Proofs.Workspace.Derivation
import Stencil.Proofs.Transform.Mirroring
import Stencil.Proofs.Workspace.Mirroring
import Stencil.Proofs.Workspace.Synthesis
import Stencil.Proofs.Assignment.Splitting
import Stencil.Proofs.Assignment.Writing
import Stencil.Proofs.Filling.Asking
import Stencil.Proofs.Isolation.Projection
import Stencil.Proofs.Filling.Conversing
import Stencil.Proofs.CommandLine.Ending
