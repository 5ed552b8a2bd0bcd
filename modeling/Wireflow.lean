import Wireflow.Main
import Wireflow.Node.Bench
import Wireflow.Proofs.Context.Ledger
import Wireflow.Proofs.Context.Reopening
import Wireflow.Proofs.Engine.Delivery
import Wireflow.Proofs.Engine.Schedule
import Wireflow.Proofs.Graph.Building
import Wireflow.Proofs.Context.Loading
import Wireflow.Proofs.Graph.Downstream
import Wireflow.Proofs.Engine.Lifecycle
import Wireflow.Proofs.Document.Acceptance
import Wireflow.Proofs.Path.Grammar
import Wireflow.Proofs.Environment.Levels
import Wireflow.Proofs.Context.Directories
import Wireflow.Proofs.Node.Privacy
import Wireflow.Proofs.Value.RoundTrip
import Wireflow.Proofs.Path.References
import Wireflow.Proofs.Context.OneStore
import Wireflow.Proofs.Node.Moving
import Wireflow.Proofs.Path.Assigning
import Wireflow.Proofs.Path.Removing
import Wireflow.Proofs.Node.Filling
import Wireflow.Proofs.Node.Respelling
import Wireflow.Proofs.Path.Indices
import Wireflow.Proofs.Path.Growing
import Wireflow.Proofs.Node.Routing
import Wireflow.Proofs.Value.Comparison
import Wireflow.Proofs.Value.Bounds
import Wireflow.Proofs.Pattern.Matching
import Wireflow.Proofs.Environment.Substitution
import Wireflow.Proofs.Environment.TypedEntries
import Wireflow.Proofs.Graph.Chains
import Wireflow.Proofs.Context.Spelling
import Wireflow.Proofs.Double.Literals
import Wireflow.Proofs.Engine.Repeating
