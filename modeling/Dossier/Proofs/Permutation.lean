import Dossier.Proofs.Graph.Permutation
import Dossier.Proofs.Query.Statistics

/-!
# Collections in another order

Much of what is computed from a collection follows the order of its documents on the way: which of
several longest chains is taken, in which order a search in breadth meets ids and in which order
domains appear. For documents of distinct ids none of this reaches the figures of the graph, the
statistics or the impact of a change (`graph_statistics_impact_of_perm`).
-/

namespace Dossier

/-- **The order of documents is of no account.** In another order, documents of distinct ids have a
graph that follows this order but is the same otherwise, show the same statistics on any day, and a
change of any id affects the same ids at the same risk. -/
theorem graph_statistics_impact_of_perm (r r' : Registry) (htaxonomy : r.taxonomy = r'.taxonomy)
    (h : r.documents.Perm r'.documents) (hnd : (r.documents.map (·.id)).Nodup) :
    Graph.Reordered r.documents r'.documents (.ofList r.taxonomy r.documents)
      (.ofList r'.taxonomy r'.documents) ∧
    (∀ today, (Query.statistics r today).Reordered (Query.statistics r' today) ∧
      (Query.statistics r today).toJson = (Query.statistics r' today).toJson) ∧
    ∀ id, (Impact.of r.documents id).Reordered (.of r'.documents id) := by
  refine ⟨?_, fun today => ?_, Impact.reordered_of_perm h⟩
  · rw [← htaxonomy]
    exact Graph.reordered_of_perm r.taxonomy h hnd
  · have hstatistics := Query.statistics_reordered_of_perm htaxonomy h today
    exact ⟨hstatistics, Query.Statistics.toJson_eq_of_reordered hstatistics⟩

/-- Two ways from one document to a fourth, which closes a cycle with the third, in two domains. -/
def braided : List Document :=
  [{ Dependency.sample "A" ["B", "C"] with domain := some .market, created := "2024-03-01" },
    { Dependency.sample "B" ["D"] with domain := some .risk, created := "soon" },
    { Dependency.sample "C" ["D", "Z"] with domain := some .market, created := "2024-01-31" },
    { Dependency.sample "D" ["C"] with created := "2024-02-29" }]

/-- The registry of documents with the canonical taxonomy. -/
def registryOf (docs : List Document) : Registry :=
  { collection := .ofList docs, taxonomy := .canonical }

/-- Read backwards, other ids and domains come first, and only that. -/
theorem graph_statistics_impact_of_perm_braided :
    (registryOf braided).documents.Perm (registryOf braided.reverse).documents ∧
    ((registryOf braided).documents.map (·.id)).Nodup ∧
    (Impact.of braided "D").direct = ["B", "C"] ∧
    (Impact.of braided.reverse "D").direct = ["C", "B"] ∧
    Graph.domainsPresent .canonical braided = [.market, .risk, .strategic] ∧
    Graph.domainsPresent .canonical braided.reverse = [.strategic, .market, .risk] ∧
    Graph.Reordered braided braided.reverse (.ofList .canonical braided)
      (.ofList .canonical braided.reverse) ∧
    (∀ today, (Query.statistics (registryOf braided) today).toJson =
      (Query.statistics (registryOf braided.reverse) today).toJson) ∧
    (Impact.of braided "D").Reordered (Impact.of braided.reverse "D") := by
  have hperm : (registryOf braided).documents.Perm (registryOf braided.reverse).documents :=
    (List.reverse_perm braided).symm
  have hnd : ((registryOf braided).documents.map (·.id)).Nodup := by decide
  obtain ⟨hgraph, hstatistics, himpact⟩ :=
    graph_statistics_impact_of_perm (registryOf braided) (registryOf braided.reverse) rfl hperm hnd
  exact ⟨hperm, hnd, by decide, by decide, by decide, by decide, hgraph,
    fun today => (hstatistics today).2, himpact "D"⟩

end Dossier
