import Dossier.Graph.Cluster
import Dossier.Graph.Metrics

/-!
# The graph of a collection

The graph shows documents as nodes, their references as edges, their domains as clusters, and
figures on the whole.
-/

namespace Dossier

open Json

/-- The graph of documents. -/
structure Graph where
  nodes : List Graph.Node
  edges : List Graph.Edge
  clusters : List Graph.Cluster
  metrics : Graph.Metrics

namespace Graph

/-- The graph of the given documents. -/
def ofList (taxonomy : Taxonomy) (docs : List Document) : Graph :=
  let ns := nodesOf taxonomy docs
  let es := edgesOf docs
  { nodes := ns
    edges := es
    clusters := clustersOf taxonomy docs
    metrics := .of taxonomy docs ns es }

/-- The graph as an object. -/
def toJson (g : Graph) : Value :=
  .object
    [("nodes", .array (g.nodes.map Node.toJson)), ("edges", .array (g.edges.map Edge.toJson)),
      ("clusters", .array (g.clusters.map Cluster.toJson)), ("metrics", g.metrics.toJson)]

end Graph

end Dossier
