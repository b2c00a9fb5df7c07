import Mathlib.Algebra.Ring.Nat
import Dossier.Graph.Metrics
import Dossier.Proofs.Dependency.Order
import Dossier.Proofs.Dependency.Tracer

/-!
# Laws of the metrics

The longest chain of the graph is the greatest length that the longest chain from a document has
(`longestChainLength_le_iff`). Documents that are orderly bound it by their number.
-/

namespace Dossier

/-- A total is a sum. -/
theorem total_eq_sum (ns : List Nat) : total ns = ns.sum := by
  rw [total, List.sum_eq_foldl]

namespace Graph

open Dependency

variable {docs : List Document}

/-- A greatest number is bounded if all numbers are. -/
theorem foldl_max_le_iff {ns : List Nat} {n bound : Nat} :
    ns.foldl max n ≤ bound ↔ n ≤ bound ∧ ∀ m ∈ ns, m ≤ bound := by
  induction ns generalizing n with
  | nil => simp
  | cons m rest ih => rw [List.foldl_cons, ih, Nat.max_le, List.forall_mem_cons, and_assoc]

/-- The longest chain is no longer than the bound of all longest chains from documents. -/
theorem longestChainLength_le_iff {bound : Nat} : longestChainLength docs ≤ bound ↔
    ∀ doc ∈ docs, (longestChain docs doc.id).length ≤ bound := by
  have hchains : (Tracer.ofList docs).chains [] (docs.map (·.id)) =
      (docs.map (·.id)).map (longestChain docs) :=
    Tracer.chains_eq (Tracer.valid_ofList docs) (Tracer.sound_nil docs) _
  simp [longestChainLength, hchains, foldl_max_le_iff]

/-- The longest chain gets no shorter when documents of other ids and dependencies are added. -/
theorem longestChainLength_mono {docs' : List Document}
    (hids : ∀ id ∈ docs.map (·.id), id ∈ docs'.map (·.id))
    (hsub : ∀ a b, Dependency.DependsOn docs a b → Dependency.DependsOn docs' a b) :
    longestChainLength docs ≤ longestChainLength docs' := by
  refine longestChainLength_le_iff.2 fun doc hdoc => ?_
  obtain ⟨doc', hdoc', hid⟩ := List.mem_map.1 (hids doc.id (List.mem_map_of_mem hdoc))
  calc (longestChain docs doc.id).length
      ≤ (longestChain docs' doc.id).length := length_chainFrom_mono hsub depthLimit doc.id
    _ ≤ longestChainLength docs' := hid ▸ longestChainLength_le_iff.1 (Nat.le_refl _) doc' hdoc'

/-- The longest chain of documents that are orderly has no more elements than there are
documents. -/
theorem longestChainLength_le_length (ho : IsOrderly docs) :
    longestChainLength docs ≤ docs.length :=
  longestChainLength_le_iff.2 fun _ hdoc => ho.length_chainFrom_le (List.mem_map_of_mem hdoc)

end Graph

end Dossier
