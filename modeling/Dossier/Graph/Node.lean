import Dossier.Graph.Index
import Dossier.Share
import Dossier.Taxonomy.Basic

/-!
# Nodes of the graph

Every document is a node. Documents are told apart by their positions, since ids may repeat. Two
documents are neighbours if one of them depends on or enables the id of the other.
-/

namespace Dossier.Graph

open Json

/-- A document in the graph. -/
structure Node where
  id : String
  type : String
  title : String
  domain : Domain
  status : Status
  priority : Option Priority
  /-- The share of the other documents that are neighbours. -/
  centrality : Share
  /-- The number of other documents that refer to the id. -/
  inDegree : Nat
  /-- The number of references of the document. -/
  outDegree : Nat
  deriving Repr

/-- The node of the document at `position`, read off the index of `size` documents. -/
def Node.of (taxonomy : Taxonomy) (ix : Index) (size : Nat) (doc : Document) (position : Nat) :
    Node where
  id := doc.id
  type := doc.type
  title := doc.title
  domain := taxonomy.domainOf doc
  status := doc.status
  priority := doc.priority
  centrality := ⟨(ix.neighbours doc position).length, size - 1⟩
  inDegree := (ix.referrers doc position).length
  outDegree := doc.references.length

/-- The nodes of documents, in their order. -/
def nodesOf (taxonomy : Taxonomy) (docs : List Document) : List Node :=
  let ix := Index.ofList docs
  docs.zipIdx.map fun (doc, position) => Node.of taxonomy ix docs.length doc position

/-- A node as an object. -/
def Node.toJson (n : Node) : Value :=
  .object <|
    [("id", .string n.id), ("type", .string n.type), ("title", .string n.title),
      ("domain", .string n.domain.name), ("status", .string n.status.name)] ++
    (match n.priority with
      | some p => [("priority", .string p.name)]
      | none => []) ++
    [("centrality", .float n.centrality.toFloat), ("inDegree", .int n.inDegree),
      ("outDegree", .int n.outDegree)]

end Dossier.Graph
