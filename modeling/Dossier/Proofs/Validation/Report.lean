import Dossier.Proofs.Chain
import Dossier.Proofs.Dependency.Cycle
import Dossier.Proofs.Graph.Metrics
import Dossier.Proofs.Validation.Check
import Dossier.Validation.Report

/-!
# What a valid collection is like

The documents of a valid collection are orderly: their ids are distinct, and their dependencies are
present and lead into no cycle (`isOrderly_of_isValid`). The search for cycles speaks of one
document at a time, and that each of them is grounded is all that an order of the whole collection
needs.
-/

namespace Dossier.Validation

open Dependency

variable {taxonomy : Taxonomy} {docs : List Document} {doc : Document}

/-! ## Valid reports -/

/-- A report is valid if none of its issues is an error. -/
theorem Report.isValid_iff {r : Report} :
    r.isValid = true ↔ ∀ issue ∈ r.issues, issue.severity ≠ .error := by
  simp [isValid, errors, List.filter_eq_nil_iff]

/-- A collection is valid if no two of its documents have one id and no issue of a document is an
error. -/
theorem validateCollection_isValid_iff :
    (validateCollection taxonomy (.ofList docs)).isValid = true ↔
      (Collection.ofList docs).duplicateIds = [] ∧
        ∀ doc ∈ docs, ∀ issue ∈ checkDocument taxonomy (some (.ofList docs)) doc,
          issue.severity ≠ .error := by
  simp only [validateCollection, CollectionReport.isValid, Bool.and_eq_true, List.isEmpty_iff,
    List.map_eq_nil_iff, List.all_eq_true, List.forall_mem_map, Report.isValid_iff]
  rfl

/-! ## Valid collections -/

section

variable (hvalid : (validateCollection taxonomy (.ofList docs)).isValid = true)

include hvalid

/-- An error is no issue of a document in a valid collection. -/
theorem not_mem_checkDocument_of_isValid (hdoc : doc ∈ docs) (issue : Issue)
    (herror : issue.severity = .error) :
    issue ∉ checkDocument taxonomy (some (.ofList docs)) doc :=
  fun hissue => (validateCollection_isValid_iff.1 hvalid).2 doc hdoc issue hissue herror

/-- The id of a document in a valid collection is its type, a hyphen and a name. -/
theorem exists_eq_of_isValid (hdoc : doc ∈ docs) :
    ∃ name, name ≠ "" ∧ doc.id = doc.type ++ "-" ++ name := by
  have hform : isDocumentId doc.id = true := by
    by_contra hform
    have hissue : .invalidId ∈ checkStructure doc :=
      mem_checkStructure.2 (.inl ⟨Bool.eq_false_iff.2 hform, rfl⟩)
    exact not_mem_checkDocument_of_isValid hvalid hdoc _ rfl (mem_checkDocument.2 (.inl hissue))
  have htype : doc.type = idType doc.id := by
    by_contra hne
    have hissue : .typeIdMismatch doc.type (idType doc.id) ∈ checkStructure doc :=
      mem_checkStructure.2 (.inr (.inl ⟨hne, rfl⟩))
    exact not_mem_checkDocument_of_isValid hvalid hdoc _ rfl (mem_checkDocument.2 (.inl hissue))
  rw [htype]
  exact exists_eq_of_isDocumentId hform

/-- What a document in a valid collection depends on is present. -/
theorem present_of_isValid (hdoc : doc ∈ docs) {target : String} (ht : target ∈ doc.dependsOn) :
    target ∈ docs.map (·.id) := by
  by_contra habsent
  have hcontains : (Collection.ofList docs).contains target = false :=
    Bool.eq_false_iff.2 (mt Collection.contains_ofList_iff.1 habsent)
  have hissue : .missingDependency target ∈ checkReferences (.ofList docs) doc :=
    mem_checkReferences.2 (.inl ⟨target, ht, hcontains, rfl⟩)
  exact not_mem_checkDocument_of_isValid hvalid hdoc _ rfl
    (mem_checkDocument.2 (.inr (.inr (.inl ⟨_, rfl, hissue⟩))))

/-- A document in a valid collection leads into no cycle. -/
theorem grounded_of_isValid (hdocs : docs.length ≤ depthLimit) (hdoc : doc ∈ docs) :
    Grounded docs doc.id := by
  by_cases hnone : doc.dependsOn = []
  · have hnd :=
      Collection.nodup_ids_of_duplicateIds_eq_nil (validateCollection_isValid_iff.1 hvalid).1
    refine .of_targets_eq_nil ?_
    rw [targets_of_document? (document?_of_nodup hnd hdoc), hnone]
  cases hfound : findCycle? (.ofList docs) doc.id with
  | none => exact grounded_of_findCycle?_eq_none hdocs hfound
  | some cycle =>
    have hissue : .circularDependency cycle ∈ checkReferences (.ofList docs) doc :=
      mem_checkReferences.2 (.inr (.inr (.inl ⟨cycle, hnone, hfound, rfl⟩)))
    exact absurd (mem_checkDocument.2 (.inr (.inr (.inl ⟨_, rfl, hissue⟩))))
      (not_mem_checkDocument_of_isValid hvalid hdoc _ rfl)

/-- The documents of a valid collection are orderly. -/
theorem isOrderly_of_isValid (hdocs : docs.length ≤ depthLimit) : IsOrderly docs where
  nodup := Collection.nodup_ids_of_duplicateIds_eq_nil (validateCollection_isValid_iff.1 hvalid).1
  present _ hdoc _ ht := present_of_isValid hvalid hdoc ht
  grounded _ hdoc := grounded_of_isValid hvalid hdocs hdoc

end

/-- **A valid collection is in order.** Among no more documents than the depth limit, ids are
distinct and made of a type and a name, dependencies are present, and the documents have an order
in which each comes after what it depends on. So no chain is circular or leads to an id without a
document, and the longest chain of the graph has no more elements than there are documents. -/
theorem ordered_of_isValid (taxonomy : Taxonomy) (docs : List Document)
    (hdocs : docs.length ≤ depthLimit)
    (hvalid : (validateCollection taxonomy (.ofList docs)).isValid = true) :
    (docs.map (·.id)).Nodup ∧
    (∀ doc ∈ docs, ∃ name, name ≠ "" ∧ doc.id = doc.type ++ "-" ++ name) ∧
    (∀ doc ∈ docs, ∀ target ∈ doc.dependsOn, target ∈ docs.map (·.id)) ∧
    (∃ order, IsDependencyOrder docs order) ∧
    (∀ chain ∈ Chain.find docs, chain.isCircular = false ∧
      ∀ id ∈ chain.ids, id ∈ docs.map (·.id)) ∧
    ∀ t nodes edges, (Graph.Metrics.of t docs nodes edges).longestChain ≤ docs.length := by
  have ho : IsOrderly docs := isOrderly_of_isValid hvalid hdocs
  refine ⟨ho.nodup, fun doc hdoc => exists_eq_of_isValid hvalid hdoc, ho.present,
    ⟨byRank docs, ho.isDependencyOrder_byRank hdocs⟩, fun chain hchain => ?_, fun _ _ _ => ?_⟩
  · exact Chain.of_mem_find_of_isOrderly ho hchain
  · exact Graph.longestChainLength_le_length ho

/-- Two ways to one document. -/
def layers : List Document :=
  [sample "MSN-a" ["MSN-b", "MSN-c"], sample "MSN-b" ["MSN-d"], sample "MSN-c" ["MSN-d"],
    sample "MSN-d" []]

/-- The layers are valid, so they have an order. -/
theorem ordered_layers : layers.length ≤ depthLimit ∧
    (validateCollection .canonical (.ofList layers)).isValid = true ∧
    ∃ order, IsDependencyOrder layers order := by
  have hdocs : layers.length ≤ depthLimit := by decide
  have hvalid : (validateCollection .canonical (.ofList layers)).isValid = true := by
    decide +kernel
  exact ⟨hdocs, hvalid, (ordered_of_isValid .canonical layers hdocs hvalid).2.2.2.1⟩

end Dossier.Validation
