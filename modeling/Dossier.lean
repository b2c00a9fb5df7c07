import Dossier.Chain
import Dossier.Collection
import Dossier.CommandLine.Run
import Dossier.CriticalPath
import Dossier.Document.Json
import Dossier.Folder.Load
import Dossier.Frontmatter.Document
import Dossier.Graph.Basic
import Dossier.Impact
import Dossier.Main
import Dossier.Query.Recommendation
import Dossier.Query.Result
import Dossier.Query.Similarity
import Dossier.Query.Statistics
import Dossier.Rpc.Server
import Dossier.Taxonomy.Settings
import Dossier.Toml.Reader
import Dossier.Validation.Report
import Dossier.Workspace
import Dossier.Yaml.Value
import Dossier.Proofs.Dependency.LongestChain
import Dossier.Proofs.Dependency.Tracer
import Dossier.Proofs.Dependency.FirstLongest
import Dossier.Proofs.Collection
import Dossier.Proofs.Dependency.Dependents
import Dossier.Proofs.Dependency.Cycle
import Dossier.Proofs.Dependency.Order
import Dossier.Proofs.Chain
import Dossier.Proofs.Chain.Coverage
import Dossier.Proofs.Impact
import Dossier.Proofs.Graph.Metrics
import Dossier.Proofs.Validation.Check
import Dossier.Proofs.Validation.Report
import Dossier.Proofs.Dependency.Rearrangement
import Dossier.Proofs.Graph.Rearrangement
import Dossier.Proofs.Validation.Cycle
import Dossier.Proofs.Graph.Cluster
import Dossier.Proofs.Graph.Edge
import Dossier.Proofs.Growth
import Dossier.Proofs.Dependency.Permutation
import Dossier.Proofs.Graph.Coherence
import Dossier.Proofs.Graph.Permutation
import Dossier.Proofs.Permutation
import Dossier.Proofs.Query.Result
import Dossier.Proofs.Query.Agreement
import Dossier.Proofs.Query.Criterion
import Dossier.Proofs.Validation.Dangling
import Dossier.Proofs.Query.Page
import Dossier.Proofs.Calendar.Date
import Dossier.Proofs.Document.Json
import Dossier.Proofs.Document.RoundTrip
import Dossier.Proofs.Frontmatter.Document
import Dossier.Proofs.Query.Chronology
import Dossier.Proofs.Folder.Load
import Dossier.Proofs.Frontmatter.Acceptance
import Dossier.Proofs.Json.Draft
import Dossier.Proofs.Json.Printer
import Dossier.Proofs.Rpc.Message
import Dossier.Proofs.Rpc.Server
import Dossier.Proofs.Graph.Index
import Dossier.Proofs.Frontmatter.Faults
import Dossier.Proofs.Frontmatter.Split
import Dossier.Proofs.Graph.Position
import Dossier.Proofs.Query.TextSearch
import Dossier.Proofs.Chain.Drafts
import Dossier.Proofs.CriticalPath
import Dossier.Proofs.Query.Similarity
import Dossier.Proofs.Frontmatter.PlainScalar
import Dossier.Proofs.Yaml.Mapping
import Dossier.Proofs.FirstOccurrences
import Dossier.Proofs.Taxonomy.Settings
import Dossier.Proofs.Decimal.Quotient
import Dossier.Proofs.Graph.Completeness
import Dossier.Proofs.Query.Ranking
import Dossier.Proofs.Json.Order
import Dossier.Proofs.Rpc.Arguments
import Dossier.Proofs.Rpc.Call
import Dossier.Proofs.Rpc.Answer
import Dossier.Proofs.Dependency.Peeling
import Dossier.Proofs.Lookup
import Dossier.Proofs.Validation.Form
import Dossier.Proofs.Rpc.Refusal
