import Dossier.Conformance
import Dossier.Dependency.Trace
import Dossier.Graph.Edge
import Dossier.Graph.Node

/-!
# Metrics of the graph
-/

namespace Dossier.Graph

open Json

/-- Figures on the whole graph. -/
structure Metrics where
  documents : Nat
  relationships : Nat
  /-- The sum of the degrees of all nodes, in and out. -/
  totalDegree : Nat
  longestChain : Nat
  conformance : Conformance
  /-- The share of a complete collection's types that are present. -/
  completeness : Share
  deriving DecidableEq, Repr

/-- The number of relationships of a document on average. -/
def Metrics.connectionsPerDocument (m : Metrics) : Share := ⟨m.relationships, m.documents⟩

/-- The average degree of a node over the number of nodes, at most one. -/
def Metrics.clustering (m : Metrics) : Float :=
  if m.documents == 0 then 0.0
  else
    let n := Float.ofNat m.documents
    let x := Float.ofNat m.totalDegree / n / n
    if x < 1.0 then x else 1.0

/-- The length of the longest chain of dependencies. -/
def longestChainLength (docs : List Document) : Nat :=
  let chains := (Dependency.Tracer.ofList docs).chains [] (docs.map (·.id))
  (chains.map List.length).foldl max 0

/-- The metrics of a graph with the given nodes and edges. -/
def Metrics.of (taxonomy : Taxonomy) (docs : List Document) (nodes : List Node)
    (edges : List Edge) : Metrics where
  documents := nodes.length
  relationships := edges.length
  totalDegree := total (nodes.map fun n => n.inDegree + n.outDegree)
  longestChain := longestChainLength docs
  conformance := .ofSize nodes.length
  completeness := .atMostAll (docs.map (·.type)).eraseDups.length taxonomy.knownTypeCount

/-- Metrics as an object. -/
def Metrics.toJson (m : Metrics) : Value :=
  .object
    [("totalDocuments", .int m.documents), ("totalRelationships", .int m.relationships),
      ("avgConnectionsPerDocument", .float m.connectionsPerDocument.toFloat),
      ("clusteringCoefficient", .float m.clustering),
      ("longestDependencyChain", .int m.longestChain),
      ("conformanceLevel", .string m.conformance.name),
      ("completenessScore", .float m.completeness.toFloat)]

end Dossier.Graph
