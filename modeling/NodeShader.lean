import NodeShader.Main
import NodeShader.Proofs.Needs
import NodeShader.Proofs.Naming
import NodeShader.Proofs.Outdated
import NodeShader.Proofs.Session
import NodeShader.Proofs.Retyping
import NodeShader.Proofs.Commuting
import NodeShader.Proofs.Reflagging
import NodeShader.Proofs.Sorting
import NodeShader.Proofs.Deriving
import NodeShader.Proofs.Recompiling
import NodeShader.Proofs.Paging
import NodeShader.Proofs.Rearranging
import NodeShader.Proofs.Removal
import NodeShader.Proofs.Closing
import NodeShader.Proofs.Rebinding
import NodeShader.Proofs.Querying
import NodeShader.Proofs.Enrolling
import NodeShader.Proofs.Reporting
import NodeShader.Proofs.Resyncing
import NodeShader.Proofs.Gathering
import NodeShader.Proofs.Returning
import NodeShader.Proofs.Fallback
import NodeShader.Proofs.Merging
import NodeShader.Proofs.Remarking
import NodeShader.Proofs.Writing
import NodeShader.Proofs.Templates
import NodeShader.Proofs.Identifiers
