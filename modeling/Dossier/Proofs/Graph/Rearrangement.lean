import Dossier.Proofs.Dependency.Rearrangement
import Dossier.Proofs.Graph.Metrics
import Dossier.Proofs.Graph.Node
import Dossier.Impact
import Dossier.Taxonomy.Canonical

/-!
# Rearranged references in the graph

What the graph shows of the references of a document, and the impact of a change, do not depend on
how the references are arranged (`eq_of_rearranged`). The degree outwards is no part of this: it
counts repetitions.
-/

namespace Dossier.Graph

open Dependency

variable {docs docs' : List Document} {doc doc' : Document} {position : Nat}

/-! ## Positions -/

/-- The elements of lists whose elements correspond still do so together with their positions. -/
theorem forall₂_zipIdx {α β : Type} {R : α → β → Prop} {l : List α} {l' : List β}
    (h : List.Forall₂ R l l') (n : Nat) :
    List.Forall₂ (fun a b => R a.1 b.1 ∧ a.2 = b.2) (l.zipIdx n) (l'.zipIdx n) := by
  induction h generalizing n with
  | nil => exact .nil
  | cons hab _ ih => exact .cons ⟨hab, rfl⟩ (ih (n + 1))

/-- What holds of corresponding documents alike holds at the same positions. -/
theorem positionsWhere_eq_of_forall₂ {R : Document → Document → Prop}
    {holds holds' : Document → Bool}
    (h : List.Forall₂ R docs docs') (hholds : ∀ a b, R a b → holds a = holds' b) :
    positionsWhere docs holds = positionsWhere docs' holds' :=
  map_filter_eq_of_forall₂ (forall₂_zipIdx h 0) (fun _ _ hab => hholds _ _ hab.1)
    fun _ _ hab => hab.2

/-! ## Nodes -/

/-- Rearranged documents are referred to from as many positions. -/
theorem length_referrers_eq_of_rearranged (h : List.Forall₂ Document.Rearranged docs docs')
    (hdoc : doc.Rearranged doc') (position : Nat) :
    ((Index.ofList docs).referrers doc position).length =
      ((Index.ofList docs').referrers doc' position).length := by
  rw [(Index.referrers_perm docs doc position).length_eq,
    (Index.referrers_perm docs' doc' position).length_eq, hdoc.id_eq,
    positionsWhere_eq_of_forall₂ h fun _ _ hab => hab.refersTo_eq doc'.id]

/-- Rearranged documents have as many neighbours. -/
theorem length_neighbours_eq_of_rearranged (h : List.Forall₂ Document.Rearranged docs docs')
    (hdoc : doc.Rearranged doc') (position : Nat) :
    ((Index.ofList docs).neighbours doc position).length =
      ((Index.ofList docs').neighbours doc' position).length := by
  have hlinked : ∀ a b, a.Rearranged b → areLinked doc a = areLinked doc' b := by
    intro a b hab
    simp only [areLinked, List.contains_eq_mem, hab.mem_links_iff, hdoc.mem_links_iff, hab.id_eq,
      hdoc.id_eq]
  rw [(Index.neighbours_perm docs doc position).length_eq,
    (Index.neighbours_perm docs' doc' position).length_eq, positionsWhere_eq_of_forall₂ h hlinked]

/-- The nodes of rearranged documents are alike in how many documents refer to them and in how
central they are. -/
theorem forall₂_nodesOf_of_rearranged (taxonomy : Taxonomy)
    (h : List.Forall₂ Document.Rearranged docs docs') :
    List.Forall₂ (fun a b => a.inDegree = b.inDegree ∧ a.centrality = b.centrality)
      (nodesOf taxonomy docs) (nodesOf taxonomy docs') := by
  rw [nodesOf, nodesOf, List.forall₂_map_left_iff, List.forall₂_map_right_iff]
  refine (forall₂_zipIdx h 0).imp ?_
  rintro ⟨a, position⟩ ⟨b, _⟩ ⟨hab, rfl⟩
  refine ⟨length_referrers_eq_of_rearranged h hab position, ?_⟩
  simp only [Node.of, length_neighbours_eq_of_rearranged h hab position, h.length_eq]

/-! ## Impact and longest chain -/

/-- A change has the same impact on rearranged documents. -/
theorem impact_eq_of_rearranged (h : List.Forall₂ Document.Rearranged docs docs') (id : String) :
    Impact.of docs id = Impact.of docs' id := by
  simp only [Impact.of, dependents_eq_of_rearranged h id, indirectDependents_eq_of_rearranged h id,
    h.length_eq]

/-- The longest chains of rearranged documents have the same length. -/
theorem longestChainLength_eq_of_rearranged (h : List.Forall₂ Document.Rearranged docs docs') :
    longestChainLength docs = longestChainLength docs' := by
  refine Nat.le_antisymm (longestChainLength_mono ?_ fun _ _ => (dependsOn_iff_of_rearranged h).1)
    (longestChainLength_mono ?_ fun _ _ => (dependsOn_iff_of_rearranged h).2)
  · exact fun _ hid => ids_eq_of_rearranged h ▸ hid
  · exact fun _ hid => ids_eq_of_rearranged h ▸ hid

/-- **How references are arranged is of no account.** Documents whose lists of what they depend on,
enable and are related to have the same entries, in any order and any number, give the same impact
of every change, nodes with the same degrees inwards and the same centralities, and a longest chain
of the same length. -/
theorem eq_of_rearranged (taxonomy : Taxonomy) (docs docs' : List Document)
    (h : List.Forall₂ Document.Rearranged docs docs') :
    (∀ id, Impact.of docs id = Impact.of docs' id) ∧
    List.Forall₂ (fun a b => a.inDegree = b.inDegree ∧ a.centrality = b.centrality)
      (nodesOf taxonomy docs) (nodesOf taxonomy docs') ∧
    ∀ nodes nodes' edges edges', (Metrics.of taxonomy docs nodes edges).longestChain =
      (Metrics.of taxonomy docs' nodes' edges').longestChain :=
  ⟨impact_eq_of_rearranged h, forall₂_nodesOf_of_rearranged taxonomy h,
    fun _ _ _ _ => longestChainLength_eq_of_rearranged h⟩

/-- Two ways to a document that enables the first. -/
def twoWays : List Document :=
  [sample "A" ["B", "C"], sample "B" ["D"], sample "C" ["D"],
    { sample "D" [] with enables := ["A", "B"], related := ["C"] }]

/-- The two ways in the other order, with repetitions. -/
def twoWaysRearranged : List Document :=
  [sample "A" ["C", "B", "C"], sample "B" ["D", "D"], sample "C" ["D"],
    { sample "D" [] with enables := ["B", "A", "B"], related := ["C", "C"] }]

/-- The longest chains from the first document are different ones of the same length. -/
theorem eq_of_rearranged_twoWays : List.Forall₂ Document.Rearranged twoWays twoWaysRearranged ∧
    longestChain twoWays "A" = ["A", "B", "D"] ∧
    longestChain twoWaysRearranged "A" = ["A", "C", "D"] ∧
    Impact.of twoWays "D" = Impact.of twoWaysRearranged "D" ∧
    longestChainLength twoWays = longestChainLength twoWaysRearranged := by
  have hsame : List.Forall₂ Document.Rearranged twoWays twoWaysRearranged := by
    refine .cons ⟨rfl, fun id => ?_, fun _ => .rfl, fun _ => .rfl⟩
      (.cons ⟨rfl, fun id => ?_, fun _ => .rfl, fun _ => .rfl⟩
      (.cons ⟨rfl, fun _ => .rfl, fun _ => .rfl, fun _ => .rfl⟩
      (.cons ⟨rfl, fun _ => .rfl, fun id => ?_, fun id => ?_⟩ .nil)))
    all_goals simp only [sample, List.mem_cons, List.not_mem_nil, or_false]; tauto
  obtain ⟨himpact, -, hlongest⟩ := eq_of_rearranged .canonical _ _ hsame
  exact ⟨hsame, by decide, by decide, himpact "D", hlongest [] [] [] []⟩

end Dossier.Graph
