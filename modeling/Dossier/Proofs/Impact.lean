import Dossier.Impact
import Dossier.Proofs.Chain
import Dossier.Proofs.Dependency.Dependents

/-!
# Laws of the impact of a change

The impact of a change lists what the change affects: directly the documents that name the id, and
indirectly the ids that further steps lead to, each once and the nearer first (`affected_of`).
Whatever stands before an id on a chain of the collection is affected by a change of that id
(`affected_of_mem_find`): chains follow the arrows from the first document of each id, and the
impact goes back along the arrows of all documents.
-/

namespace Dossier.Impact

open Dependency

variable {docs : List Document} {id met : String} {chain : Chain}

/-! ## What a change affects -/

/-- What is affected indirectly is what is affected at a distance greater than one. -/
theorem isSweep_indirect (docs : List Document) (id : String) :
    IsSweep docs id 1 (of docs id).indirect :=
  isSweep_indirectDependents docs id

/-- An impact lists all that the change affects. -/
theorem mem_direct_or_indirect_iff :
    met ∈ (of docs id).direct ∨ met ∈ (of docs id).indirect ↔
      Relation.TransGen (Affects docs) id met :=
  mem_dependents_or_indirectDependents

/-- What is affected is the id of a document. -/
theorem exists_document_of_transGen (h : Relation.TransGen (Affects docs) id met) :
    ∃ doc ∈ docs, doc.id = met := by
  obtain ⟨_, -, doc, hdoc, -, hid⟩ := Relation.TransGen.tail'_iff.1 h
  exact ⟨doc, hdoc, hid⟩

/-- What is affected directly is not listed as affected indirectly. -/
theorem disjoint_direct_indirect (docs : List Document) (id : String) :
    (of docs id).direct.Disjoint (of docs id).indirect := by
  intro met hdirect hindirect
  obtain ⟨m, hm, hdist⟩ := ((isSweep_indirect docs id).mem_iff met).1 hindirect
  exact Nat.ne_of_lt hm ((isDistance_one_iff.2 hdirect).unique hdist)

/-- What is affected indirectly is affected by what is affected directly, and is not among it. -/
theorem mem_indirect_iff : met ∈ (of docs id).indirect ↔
    met ∉ (of docs id).direct ∧
      ∃ start ∈ (of docs id).direct, Relation.TransGen (Affects docs) start met := by
  constructor
  · intro h
    have hnot : met ∉ (of docs id).direct := fun hd => disjoint_direct_indirect docs id hd h
    refine ⟨hnot, ?_⟩
    obtain ⟨start, hstart, hsteps⟩ :=
      Relation.TransGen.head'_iff.1 (mem_direct_or_indirect_iff.1 (.inr h))
    refine ⟨start, mem_dependents.2 hstart, ?_⟩
    rcases Relation.reflTransGen_iff_eq_or_transGen.1 hsteps with rfl | hsteps
    · exact absurd (mem_dependents.2 hstart) hnot
    · exact hsteps
  · rintro ⟨hnot, start, hstart, hsteps⟩
    have haffected : Relation.TransGen (Affects docs) id met :=
      .head (mem_dependents.1 hstart) hsteps
    exact (mem_direct_or_indirect_iff.2 haffected).resolve_left hnot

/-- No more ids are affected than there are documents: the documents that name the id are affected
directly, and an id that is affected indirectly is that of another document. -/
theorem total_le_length (docs : List Document) (id : String) :
    (of docs id).total ≤ docs.length := by
  have hothers : (of docs id).indirect.length ≤
      (docs.filter fun doc => !doc.dependsOn.contains id).length := by
    have hsub : ∀ met ∈ (of docs id).indirect,
        met ∈ (docs.filter fun doc => !doc.dependsOn.contains id).map (·.id) := by
      intro met hmet
      obtain ⟨doc, hdoc, rfl⟩ :=
        exists_document_of_transGen (mem_direct_or_indirect_iff.1 (.inr hmet))
      refine List.mem_map_of_mem (List.mem_filter.2 ⟨hdoc, ?_⟩)
      rw [Bool.not_eq_true', ← Bool.not_eq_true, List.contains_iff_mem]
      exact fun hnames => (mem_indirect_iff.1 hmet).1 (mem_dependents.2 ⟨doc, hdoc, hnames, rfl⟩)
    simpa only [List.length_map] using ((isSweep_indirect docs id).nodup.subperm hsub).length_le
  have hdirect : (of docs id).direct.length =
      (docs.filter fun doc => doc.dependsOn.contains id).length := by
    show (dependents docs id).length = _
    rw [dependents_eq, List.length_map]
  have hall := List.length_eq_length_filter_add (l := docs) fun doc => doc.dependsOn.contains id
  rw [total]
  omega

/-- **The impact of a change is what the change affects.** Directly affected is one entry for each
document that names the id, in the order of the documents. Indirectly affected is exactly what
further steps lead to and is not affected directly, each once and the nearer first. No more is
affected than there are documents. -/
theorem affected_of (docs : List Document) (id : String) :
    (of docs id).direct = (docs.filter fun doc => id ∈ doc.dependsOn).map (·.id) ∧
    (∀ met, met ∈ (of docs id).indirect ↔ met ∉ (of docs id).direct ∧
      ∃ start ∈ (of docs id).direct, Relation.TransGen (Affects docs) start met) ∧
    (of docs id).indirect.Nodup ∧
    (of docs id).indirect.Pairwise (NoFarther docs id) ∧
    (of docs id).direct.Disjoint (of docs id).indirect ∧
    (of docs id).total ≤ docs.length := by
  have hsweep := isSweep_indirect docs id
  refine ⟨?_, fun _ => mem_indirect_iff, hsweep.nodup, hsweep.sorted,
    disjoint_direct_indirect docs id, total_le_length docs id⟩
  show dependents docs id = _
  simp only [dependents_eq, List.contains_eq_mem]

/-! ## The impact along a chain -/

/-- **Along a chain the impact comes back.** Of two positions on a chain of the collection, a
change of the id at the later one affects the id at the earlier one. -/
theorem affected_of_mem_find (h : chain ∈ Chain.find docs) :
    chain.ids.Pairwise fun earlier later =>
      earlier ∈ (of docs later).direct ∨ earlier ∈ (of docs later).indirect := by
  obtain ⟨doc, -, -, rfl⟩ := Chain.mem_find_iff.1 h
  have hwalk : IsWalk docs (longestChain docs doc.id) := isWalk_chainFrom docs depthLimit [] doc.id
  exact hwalk.pairwise.imp fun hleads =>
    mem_direct_or_indirect_iff.2 (transGen_affects_of_transGen hleads)

/-- A chain that enters a cycle, among them an id that comes twice. -/
def returning : List Document :=
  [sample "A" ["B"], sample "B" ["C"], sample "C" ["B"], sample "C" ["A"]]

/-- The chain comes back to its second id, which is affected by its own change. -/
theorem affected_of_mem_find_returning :
    Chain.of returning ["A", "B", "C", "B"] ∈ Chain.find returning ∧
      ("B" ∈ (of returning "B").direct ∨ "B" ∈ (of returning "B").indirect) := by
  have hchain : longestChain returning "A" = ["A", "B", "C", "B"] := by decide
  have hmem : Chain.of returning ["A", "B", "C", "B"] ∈ Chain.find returning :=
    Chain.mem_find_iff.2 ⟨sample "A" ["B"], .head _, by decide, by rw [← hchain]; rfl⟩
  have hpairs := List.pairwise_iff_getElem.1 (affected_of_mem_find hmem)
  exact ⟨hmem, hpairs 1 3 (by decide) (by decide) (by decide)⟩

end Dossier.Impact
