import Dossier.Share
import Dossier.Taxonomy.Basic

/-!
# Clusters of the graph

The documents of one domain form a cluster. It is complete as far as the types on the domain's
checklist are present, and connected by its references to ids outside. Documents are grouped by
their domains in one pass, which keeps beside the groups a list of the domains that have appeared.
-/

namespace Dossier.Graph

open Json

/-- How critical a cluster is. -/
inductive Criticality where
  | high
  | medium
  | low
  deriving DecidableEq, Repr

/-- The name of a criticality. -/
def Criticality.name : Criticality → String
  | high => "high"
  | medium => "medium"
  | low => "low"

/-- The documents of a domain. -/
structure Cluster where
  domain : Domain
  ids : List String
  completeness : Share
  connections : Nat
  criticality : Criticality
  deriving Repr

/-- Documents that are grouped by their domains. -/
structure Groups where
  /-- The domains that have appeared, in the order in which they did. -/
  order : List Domain := []
  /-- The documents of each of them. -/
  members : List (Domain × List Document) := []

namespace Groups

/-- Adds a document to those of a domain, after the ones that are there. -/
def add (d : Domain) (doc : Document) :
    List (Domain × List Document) → List (Domain × List Document)
  | [] => [(d, [doc])]
  | (d', docs) :: rest =>
    if d' == d then (d', docs ++ [doc]) :: rest else (d', docs) :: add d doc rest

/-- Puts a document into the group of its domain, which is opened if the domain has not appeared
before. -/
def enter (taxonomy : Taxonomy) (g : Groups) (doc : Document) : Groups :=
  let d := taxonomy.domainOf doc
  { order := if (g.members.lookup d).isSome then g.order else g.order ++ [d]
    members := add d doc g.members }

/-- The groups of documents. -/
def ofList (taxonomy : Taxonomy) (docs : List Document) : Groups := docs.foldl (enter taxonomy) {}

end Groups

/-- The types on a checklist that are present among documents. -/
def typesPresent (checklist : List String) (docs : List Document) : List String :=
  ((docs.map (·.type)).filter checklist.contains).eraseDups

/-- The references of documents to ids that none of them has. -/
def outwardReferences (docs : List Document) : List String :=
  let ids := docs.map (·.id)
  (docs.flatMap (·.references)).filter fun target => !ids.contains target

/-- The criticality of a cluster. -/
def Criticality.of (isStrategic : Bool) (completeness : Share) (connections : Nat) : Criticality :=
  if isStrategic || (completeness.exceeds 4 5 && connections > 10) then .high
  else if completeness.exceeds 1 2 && connections > 5 then .medium
  else .low

/-- The cluster of a domain with the given members. -/
def Cluster.of (taxonomy : Taxonomy) (d : Domain) (members : List Document) : Cluster :=
  let checklist := taxonomy.checklist d
  let completeness : Share := ⟨(typesPresent checklist members).length, checklist.length⟩
  let connections := (outwardReferences members).length
  { domain := d
    ids := members.map (·.id)
    completeness := completeness
    connections := connections
    criticality := .of (d == taxonomy.strategicDomain) completeness connections }

/-- The clusters of documents, in the order in which their domains appear. -/
def clustersOf (taxonomy : Taxonomy) (docs : List Document) : List Cluster :=
  let groups := Groups.ofList taxonomy docs
  groups.order.filterMap fun d => (groups.members.lookup d).map (.of taxonomy d)

/-- A cluster as an object. -/
def Cluster.toJson (c : Cluster) : Value :=
  .object
    [("domain", .string c.domain.name), ("documents", .strings c.ids),
      ("completeness", .float c.completeness.toFloat), ("connections", .int c.connections),
      ("criticality", .string c.criticality.name)]

end Dossier.Graph
