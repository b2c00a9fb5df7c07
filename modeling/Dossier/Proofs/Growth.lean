import Dossier.Graph.Basic
import Dossier.Proofs.Dependency.Rearrangement
import Dossier.Proofs.Graph.Metrics
import Dossier.Proofs.Impact
import Dossier.Taxonomy.Canonical

/-!
# Growing collections

Documents grow when others come after them and when they list more dependencies at the end
(`Extension`). Growth may turn an id that dangles into a document, an indirect dependent into a
direct one and a chain that ends into a cycle. It keeps every step along dependencies and against
them, so a change affects all that it affected before, and the longest chain gets no shorter
(`affected_and_longestChain_of_extension`).
-/

namespace Dossier

open Dependency

variable {docs docs' : List Document} {id target dependent : String}

/-- Documents that grow: each may list more dependencies after those it has, and others may follow.
Nothing is asked of the ids of those that follow, since an id is looked up at its first
document. -/
inductive Extension : List Document → List Document → Prop
  | added (more : List Document) : Extension [] more
  | grown {docs docs' : List Document} (doc : Document) (more : List String)
    (h : Extension docs docs') :
      Extension (doc :: docs) ({ doc with dependsOn := doc.dependsOn ++ more } :: docs')

namespace Extension

/-- No id gets lost. -/
theorem mem_ids (h : Extension docs docs') : id ∈ docs.map (·.id) → id ∈ docs'.map (·.id) := by
  induction h with
  | added more => simp
  | grown doc more _ ih =>
    simp only [List.map_cons, List.mem_cons]
    exact Or.imp_right ih

/-- An id goes on depending on what it depends on. -/
theorem dependsOn (h : Extension docs docs') :
    Dependency.DependsOn docs id target → Dependency.DependsOn docs' id target := by
  induction h with
  | added more => simp [Dependency.DependsOn, targets, document?]
  | grown doc more _ ih =>
    rw [Dependency.DependsOn, Dependency.DependsOn, targets_cons, targets_cons]
    dsimp only
    split
    · exact List.mem_append_left more
    · exact ih

/-- A change of an id goes on affecting what it affects. -/
theorem affects (h : Extension docs docs') :
    Affects docs id dependent → Affects docs' id dependent := by
  induction h with
  | added more => simp [Affects]
  | grown doc more _ ih =>
    rintro ⟨listing, hlisting, hmem, rfl⟩
    rcases List.mem_cons.1 hlisting with rfl | hlisting
    · exact ⟨_, .head _, List.mem_append_left more hmem, rfl⟩
    · obtain ⟨grown, hgrown, hmem', hid⟩ := ih ⟨listing, hlisting, hmem, rfl⟩
      exact ⟨grown, .tail _ hgrown, hmem', hid⟩

/-- The longest chain gets no shorter. -/
theorem longestChainLength_le (h : Extension docs docs') :
    Graph.longestChainLength docs ≤ Graph.longestChainLength docs' :=
  Graph.longestChainLength_mono (fun _ => h.mem_ids) fun _ _ => h.dependsOn

end Extension

/-- **Growth takes nothing away.** When documents are added at the end and dependencies at the ends
of lists, a change of any id affects, directly or indirectly, all that it affected before, and the
longest chain of the graph has at least as many elements. -/
theorem affected_and_longestChain_of_extension (h : Extension docs docs') :
    (∀ id met, met ∈ (Impact.of docs id).direct ∨ met ∈ (Impact.of docs id).indirect →
      met ∈ (Impact.of docs' id).direct ∨ met ∈ (Impact.of docs' id).indirect) ∧
    ∀ taxonomy, (Graph.ofList taxonomy docs).metrics.longestChain ≤
      (Graph.ofList taxonomy docs').metrics.longestChain := by
  refine ⟨fun id met hmet => ?_, fun _ => h.longestChainLength_le⟩
  have hsteps : Relation.TransGen (Affects docs) id met := Impact.mem_direct_or_indirect_iff.1 hmet
  exact Impact.mem_direct_or_indirect_iff.2
    (Relation.TransGen.mono (fun _ _ => h.affects) id met hsteps)

/-- A chain of two documents that ends at a dangling id. -/
def twig : List Document := [sample "A" ["B"], sample "B" ["C"]]

/-- The chain when its end has become a document that closes a cycle, and its start depends on
it. -/
def wreath : List Document := [sample "A" ["B", "C"], sample "B" ["C"], sample "C" ["A"]]

/-- A change of the end affects the start indirectly, and directly once the start has come to list
it. -/
theorem affected_and_longestChain_of_extension_wreath : Extension twig wreath ∧
    (Impact.of twig "C").direct = ["B"] ∧ (Impact.of wreath "C").direct = ["A", "B"] ∧
    "A" ∈ (Impact.of twig "C").indirect ∧
    ("A" ∈ (Impact.of wreath "C").direct ∨ "A" ∈ (Impact.of wreath "C").indirect) ∧
    longestChain twig "A" = ["A", "B", "C"] ∧ longestChain wreath "A" = ["A", "B", "C", "A"] ∧
    (Graph.ofList .canonical twig).metrics.longestChain ≤
      (Graph.ofList .canonical wreath).metrics.longestChain := by
  have hgrown : Extension twig wreath :=
    .grown (sample "A" ["B"]) ["C"] (.grown (sample "B" ["C"]) [] (.added [sample "C" ["A"]]))
  have hindirect : "A" ∈ (Impact.of twig "C").indirect :=
    Impact.mem_indirect_iff.2 ⟨by decide, "B", by decide, .single (mem_dependents.1 (by decide))⟩
  obtain ⟨haffected, hlongest⟩ := affected_and_longestChain_of_extension hgrown
  exact ⟨hgrown, by decide, by decide, hindirect, haffected "C" "A" (.inr hindirect), by decide,
    by decide, hlongest .canonical⟩

end Dossier
