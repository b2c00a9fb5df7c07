import Dossier.Document.Basic

/-!
# Edges of the graph

Every reference of a document is an edge, repeated and dangling ones included.
-/

namespace Dossier.Graph

open Json

/-- How a document refers to another. -/
inductive Relationship where
  | dependsOn
  | enables
  | conflictsWith
  | related
  | supersedes
  deriving DecidableEq, Repr

namespace Relationship

/-- The name of a relationship. -/
def name : Relationship → String
  | dependsOn => "depends_on"
  | enables => "enables"
  | conflictsWith => "conflicts_with"
  | related => "related"
  | supersedes => "supersedes"

/-- The weight of an edge. -/
def strength : Relationship → Float
  | dependsOn => 1.0
  | enables => 0.8
  | conflictsWith => 0.9
  | related => 0.5
  | supersedes => 1.0

end Relationship

/-- A reference from one id to another. -/
structure Edge where
  source : String
  target : String
  relationship : Relationship
  deriving DecidableEq, Repr

/-- The edges of a document, relationship by relationship. -/
def Edge.ofDocument (doc : Document) : List Edge :=
  let along (relationship : Relationship) (targets : List String) : List Edge :=
    targets.map fun target => ⟨doc.id, target, relationship⟩
  along .dependsOn doc.dependsOn ++ along .enables doc.enables ++
    along .conflictsWith doc.conflictsWith ++ along .related doc.related ++
    along .supersedes doc.supersedes.toList

/-- The edges of documents, in their order. -/
def edgesOf (docs : List Document) : List Edge := docs.flatMap Edge.ofDocument

/-- An edge as an object. -/
def Edge.toJson (e : Edge) : Value :=
  .object
    [("source", .string e.source), ("target", .string e.target),
      ("type", .string e.relationship.name), ("strength", .float e.relationship.strength)]

end Dossier.Graph
