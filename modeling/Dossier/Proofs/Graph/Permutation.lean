import Mathlib.Algebra.BigOperators.Group.List.Basic
import Dossier.Proofs.Dependency.Permutation
import Dossier.Proofs.Graph.Cluster
import Dossier.Proofs.Graph.Metrics
import Dossier.Proofs.Graph.Node

/-!
# Graphs of documents in another order

In another order, documents of distinct ids have the same nodes in that order, the same edges in
some order, the same metrics, and clusters that list the same ids (`reordered_of_perm`).
-/

namespace Dossier.Graph

variable {taxonomy : Taxonomy} {docs docs' : List Document} {d : Domain}

/-- Two clusters that differ at most in the order in which they list ids. -/
structure Cluster.Reordered (a b : Cluster) : Prop where
  rest : b = { a with ids := b.ids }
  ids : a.ids.Perm b.ids

/-- Two graphs of documents in two orders that differ by these orders only. -/
structure Reordered (docs docs' : List Document) (g g' : Graph) : Prop where
  /-- Each document has the same node in both, at its place. -/
  nodes : ∃ node : Document → Node, g.nodes = docs.map node ∧ g'.nodes = docs'.map node
  edges : g.edges.Perm g'.edges
  metrics : g.metrics = g'.metrics
  /-- The same domains have a cluster, each of them one. -/
  domains : (g.clusters.map (·.domain)).Perm (g'.clusters.map (·.domain))
  nodup_domains : (g.clusters.map (·.domain)).Nodup
  clusters : ∀ d, Option.Rel Cluster.Reordered (g.cluster? d) (g'.cluster? d)

/-! ## Nodes -/

/-- A document told by its id has the same node in any order of the documents. -/
theorem byId_eq_of_perm (h : docs.Perm docs') :
    Node.byId taxonomy docs = Node.byId taxonomy docs' := by
  funext doc
  simp only [Node.byId, h.countP_eq, h.length_eq]

/-! ## Metrics -/

/-- The longest chain has the same length in any order of documents of distinct ids. -/
theorem longestChainLength_eq_of_perm (h : docs.Perm docs') (hnd : (docs.map (·.id)).Nodup) :
    longestChainLength docs = longestChainLength docs' := by
  refine Nat.le_antisymm
    (longestChainLength_mono ?_ fun _ _ => (Dependency.dependsOn_iff_of_perm h hnd).1)
    (longestChainLength_mono ?_ fun _ _ => (Dependency.dependsOn_iff_of_perm h hnd).2)
  · exact fun _ => (h.map _).mem_iff.1
  · exact fun _ => (h.map _).mem_iff.2

/-- The metrics are the same in any order of documents of distinct ids, and of nodes and edges. -/
theorem metrics_eq_of_perm (h : docs.Perm docs') (hnd : (docs.map (·.id)).Nodup)
    {nodes nodes' : List Node} {edges edges' : List Edge} (hnodes : nodes.Perm nodes')
    (hedges : edges.Perm edges') :
    Metrics.of taxonomy docs nodes edges = Metrics.of taxonomy docs' nodes' edges' := by
  have hdegree : total (nodes.map fun n => n.inDegree + n.outDegree) =
      total (nodes'.map fun n => n.inDegree + n.outDegree) := by
    rw [total_eq_sum, total_eq_sum, (hnodes.map _).sum_eq]
  have htypes : (docs.map (·.type)).eraseDups.length = (docs'.map (·.type)).eraseDups.length :=
    (eraseDups_perm (h.map _)).length_eq
  rw [Metrics.of, Metrics.of, hnodes.length_eq, hedges.length_eq, hdegree, htypes,
    longestChainLength_eq_of_perm h hnd]

/-! ## Clusters -/

/-- The same references lead outside in any order of the documents. -/
theorem outwardReferences_perm (h : docs.Perm docs') :
    (outwardReferences docs).Perm (outwardReferences docs') := by
  have hids : ∀ target, (docs.map (·.id)).contains target =
      (docs'.map (·.id)).contains target := by
    intro target
    rw [Bool.eq_iff_iff, List.contains_iff_mem, List.contains_iff_mem, (h.map _).mem_iff]
  simp only [outwardReferences, hids]
  exact (h.flatMap_right _).filter _

/-- The same types of a checklist are present in any order of the documents. -/
theorem typesPresent_perm (checklist : List String) (h : docs.Perm docs') :
    (typesPresent checklist docs).Perm (typesPresent checklist docs') :=
  eraseDups_perm ((h.map _).filter _)

/-- The cluster of a domain with members in another order lists their ids in that order. -/
theorem Cluster.reordered_of_perm (taxonomy : Taxonomy) (d : Domain) (h : docs.Perm docs') :
    (Cluster.of taxonomy d docs).Reordered (Cluster.of taxonomy d docs') where
  rest := by
    rw [Cluster.of, Cluster.of, (typesPresent_perm _ h).length_eq,
      (outwardReferences_perm h).length_eq]
  ids := h.map _

/-- The same domains are present in any order of the documents. -/
theorem domainsPresent_perm (taxonomy : Taxonomy) (h : docs.Perm docs') :
    (domainsPresent taxonomy docs).Perm (domainsPresent taxonomy docs') :=
  eraseDups_perm (h.map _)

/-- A domain has the same cluster in any order of the documents, its ids apart, which are in that
order. -/
theorem cluster?_reordered (taxonomy : Taxonomy) (h : docs.Perm docs') (d : Domain) :
    Option.Rel Cluster.Reordered ((ofList taxonomy docs).cluster? d)
      ((ofList taxonomy docs').cluster? d) := by
  have hpresent : d ∈ domainsPresent taxonomy docs ↔ d ∈ domainsPresent taxonomy docs' :=
    (domainsPresent_perm taxonomy h).mem_iff
  rw [cluster?_ofList, cluster?_ofList]
  simp only [hpresent]
  split
  · exact .some (Cluster.reordered_of_perm taxonomy d (h.filter _))
  · exact .none

/-! ## The whole graph -/

/-- The graph of documents of distinct ids follows their order, and nothing else does. -/
theorem reordered_of_perm (taxonomy : Taxonomy) (h : docs.Perm docs')
    (hnd : (docs.map (·.id)).Nodup) :
    Reordered docs docs' (ofList taxonomy docs) (ofList taxonomy docs') := by
  have hnd' : (docs'.map (·.id)).Nodup := (h.map _).nodup_iff.1 hnd
  have hnodes : nodesOf taxonomy docs = docs.map (Node.byId taxonomy docs) := nodesOf_eq_map hnd
  have hnodes' : nodesOf taxonomy docs' = docs'.map (Node.byId taxonomy docs) := by
    rw [nodesOf_eq_map hnd', byId_eq_of_perm h]
  have hperm : (nodesOf taxonomy docs).Perm (nodesOf taxonomy docs') := by
    rw [hnodes, hnodes']
    exact h.map _
  have hedges : (edgesOf docs).Perm (edgesOf docs') := h.flatMap_right _
  constructor
  case nodes => exact ⟨Node.byId taxonomy docs, hnodes, hnodes'⟩
  case edges => exact hedges
  case metrics => exact metrics_eq_of_perm h hnd hperm hedges
  case domains =>
    show ((clustersOf taxonomy docs).map _).Perm ((clustersOf taxonomy docs').map _)
    rw [map_domain_clustersOf, map_domain_clustersOf]
    exact domainsPresent_perm taxonomy h
  case nodup_domains =>
    show ((clustersOf taxonomy docs).map _).Nodup
    rw [map_domain_clustersOf]
    exact nodup_domainsPresent taxonomy docs
  case clusters => exact cluster?_reordered taxonomy h

end Dossier.Graph
