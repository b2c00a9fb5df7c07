import Dossier.Proofs.Dependency.Order
import Dossier.Proofs.Impact

/-!
# Dependencies of documents in another order

Where ids are distinct a look-up finds the one document with an id, wherever it stands
(`document?_eq_of_perm`), so an id depends on the same ids in whichever order the documents come.
What a change affects does not even need distinct ids: the steps against the arrows are those of
all documents. Only the order in which it is listed follows that of the documents
(`Impact.reordered_of_perm`).
-/

namespace Dossier

variable {docs docs' : List Document} {id target : String}

namespace Dependency

/-- A document is looked up alike in any order of documents of distinct ids. -/
theorem document?_eq_of_perm (h : docs.Perm docs') (hnd : (docs.map (·.id)).Nodup) (id : String) :
    document? docs id = document? docs' id := by
  have hnd' : (docs'.map (·.id)).Nodup := (h.map _).nodup_iff.1 hnd
  cases hfind : document? docs id with
  | some doc =>
    obtain rfl : doc.id = id := by simpa using List.find?_some hfind
    have hdoc : doc ∈ docs' := h.mem_iff.1 (List.mem_of_find?_eq_some hfind)
    exact (document?_of_nodup hnd' hdoc).symm
  | none =>
    refine (List.find?_eq_none.2 fun doc hdoc => ?_).symm
    exact List.find?_eq_none.1 hfind doc (h.mem_iff.2 hdoc)

/-- An id depends on the same ids in any order of documents of distinct ids. -/
theorem dependsOn_iff_of_perm (h : docs.Perm docs') (hnd : (docs.map (·.id)).Nodup) :
    DependsOn docs id target ↔ DependsOn docs' id target := by
  rw [DependsOn, DependsOn, targets, targets, document?_eq_of_perm h hnd]

/-- A change of an id affects the same ids in any order of the documents. -/
theorem affects_eq_of_perm (h : docs.Perm docs') : Affects docs = Affects docs' := by
  funext id dependent
  simp only [Affects, h.mem_iff]

/-- The same ids depend on an id in any order of the documents. -/
theorem dependents_perm (h : docs.Perm docs') (id : String) :
    (dependents docs id).Perm (dependents docs' id) := by
  rw [dependents_eq, dependents_eq]
  exact (h.filter _).map _

end Dependency

open Dependency

namespace Impact

/-- Two impacts that differ at most in the order in which they list what is affected. -/
structure Reordered (a b : Impact) : Prop where
  rest : b = { a with direct := b.direct, indirect := b.indirect }
  direct : a.direct.Perm b.direct
  indirect : a.indirect.Perm b.indirect

/-- What is affected indirectly is the same in any order of the documents. -/
theorem indirect_perm (h : docs.Perm docs') (id : String) :
    (of docs id).indirect.Perm (of docs' id).indirect := by
  have hdirect : ∀ met, met ∈ (of docs id).direct ↔ met ∈ (of docs' id).direct :=
    fun _ => (dependents_perm h id).mem_iff
  refine (List.perm_ext_iff_of_nodup (isSweep_indirect docs id).nodup
    (isSweep_indirect docs' id).nodup).2 fun met => ?_
  simp only [mem_indirect_iff, hdirect, affects_eq_of_perm h]

/-- A change has the same impact in any order of the documents. -/
theorem reordered_of_perm (h : docs.Perm docs') (id : String) :
    (of docs id).Reordered (of docs' id) := by
  have hdirect : (of docs id).direct.Perm (of docs' id).direct := dependents_perm h id
  have hindirect := indirect_perm h id
  refine ⟨?_, hdirect, hindirect⟩
  have hrisk : (of docs' id).risk = (of docs id).risk := by
    show Risk.ofShare ⟨(of docs' id).direct.length + (of docs' id).indirect.length, docs'.length⟩ =
      Risk.ofShare ⟨(of docs id).direct.length + (of docs id).indirect.length, docs.length⟩
    rw [hdirect.length_eq, hindirect.length_eq, h.length_eq]
  rw [← hrisk]
  rfl

end Impact

end Dossier
